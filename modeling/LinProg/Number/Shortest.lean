import LinProg.Number.Decimal

/-!
# Shortest decimals

`shortest x` is the decimal with the fewest digits that reads back as the positive finite double
`x`, and the nearest of those; an exact tie goes upward.  It looks for the coarsest decimal grid on
which one of the two neighbours of `x` reads back.
-/

namespace LinProg

/-- The positive number `mantissa * 2 ^ exponent`. -/
structure Binary where
  mantissa : Nat
  exponent : Int
deriving DecidableEq, Repr

namespace Binary

/-- The magnitude of a finite double, read from its bits. -/
def ofFloat (x : Float) : Binary :=
  let bits := x.toBits.toNat
  let field : Nat := bits / Nat.pow 2 52 % Nat.pow 2 11
  let fraction : Nat := bits % Nat.pow 2 52
  if field = 0 then ⟨fraction, -1074⟩ else ⟨fraction + Nat.pow 2 52, (field : Int) - 1075⟩

/-- Numerator of the number as a quotient of naturals. -/
def num (b : Binary) : Nat := b.mantissa * Nat.pow 2 b.exponent.toNat

def den (b : Binary) : Nat := Nat.pow 2 (-b.exponent).toNat

def floor (b : Binary) : Nat := b.num / b.den

def ceil (b : Binary) : Nat := (b.num + b.den - 1) / b.den

def isWhole (b : Binary) : Bool := b.num % b.den = 0

/-- The number itself as a decimal: a negative power of two is a power of five over one of ten. -/
def toDecimal (b : Binary) : Decimal :=
  if 0 ≤ b.exponent then ⟨b.num, 0⟩
  else ⟨b.mantissa * Nat.pow 5 (-b.exponent).toNat, b.exponent⟩

/-- The two neighbours of the number among the multiples of `10 ^ k`, the nearer one first and, at
equal distance, the upper one first. -/
def neighbours (b : Binary) (k : Int) : List Decimal :=
  let num := b.num * Nat.pow 10 (-k).toNat
  let den := b.den * Nat.pow 10 k.toNat
  let below := num / den
  if 2 * (num % den) < den then [⟨below, k⟩, ⟨below + 1, k⟩] else [⟨below + 1, k⟩, ⟨below, k⟩]

/-- An exponent whose power of ten is above the number: `0.30103` is just above the decimal
logarithm of two. -/
def topExponent (b : Binary) : Int :=
  ((b.num.log2 : Int) - b.den.log2 + 1) * 30103 / 100000 + 1

/-- Steps down through the decimal grids from `10 ^ k` and takes the first neighbour that reads
back as `x`.  After `steps` grids it falls back on the number itself. -/
def search (b : Binary) (x : Float) : Nat → Int → Decimal
  | 0, _ => b.toDecimal
  | steps + 1, k =>
    match (b.neighbours k).find? (fun d => d.toFloat = x) with
    | some d => d
    | none => search b x steps (k - 1)

end Binary

/-- The decimal with the fewest digits that reads back as the positive finite double `x`. -/
def Decimal.shortest (x : Float) : Decimal :=
  let b := Binary.ofFloat x
  (b.search x (b.topExponent - min b.exponent 0).toNat b.topExponent).reduce

namespace Binary

/-- A search that stops before its last grid returns a decimal that reads back. -/
theorem toFloat_search (b : Binary) (x : Float) (steps : Nat) (k : Int) :
    b.search x steps k = b.toDecimal ∨ (b.search x steps k).toFloat = x := by
  induction steps generalizing k with
  | zero => exact .inl rfl
  | succ n ih =>
    rw [search]
    split
    · rename_i d hd
      exact .inr (by simpa using List.find?_some hd)
    · exact ih (k - 1)

end Binary

end LinProg
