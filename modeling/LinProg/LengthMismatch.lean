/-!
# Lengths of parallel arrays

Calls that take several arrays describing the same things need arrays of one length.
-/

namespace LinProg

/-- An array whose length differs from that of the array it goes with. -/
structure LengthMismatch where
  what : String
  expected : Nat
  found : Nat
deriving DecidableEq, Repr

namespace LengthMismatch

def message (e : LengthMismatch) : String :=
  "length mismatch for " ++ e.what ++ ": expected " ++ toString e.expected ++ ", found " ++
    toString e.found

def check (what : String) (expected found : Nat) : Except LengthMismatch Unit :=
  if expected = found then .ok () else .error ⟨what, expected, found⟩

/-- Accepts an absent array, or one of the expected length. -/
def checkOption {α : Type} (what : String) (expected : Nat) :
    Option (List α) → Except LengthMismatch Unit
  | none => .ok ()
  | some xs => check what expected xs.length

end LengthMismatch

end LinProg
