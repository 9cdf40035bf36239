/-!
# Ranges of characters

A class of characters is a list of ranges of code points.
-/

namespace LinProg.Text

/-- The code points from `first` to `last`, both included. -/
abbrev CodeRange : Type := Nat × Nat

def isIn (ranges : List CodeRange) (c : Char) : Bool :=
  ranges.any fun (first, last) => first ≤ c.toNat && c.toNat ≤ last

end LinProg.Text
