/-!
# Decimals

A decimal is a natural coefficient and a power of ten.  `reduce` moves the trailing zeros of the
coefficient into the exponent, so that equal decimals become the same pair, and `toFloat` rounds
to the nearest double.
-/

namespace LinProg

/-- The number `coefficient * 10 ^ exponent`. -/
structure Decimal where
  coefficient : Nat
  exponent : Int
deriving DecidableEq, Repr

namespace Decimal

/-- Moves trailing zeros of the coefficient into the exponent; zero becomes `0 * 10 ^ 0`. -/
def reduceFrom (coefficient : Nat) (exponent : Int) : Decimal :=
  if h : coefficient = 0 then ⟨0, 0⟩
  else if coefficient % 10 = 0 then reduceFrom (coefficient / 10) (exponent + 1)
  else ⟨coefficient, exponent⟩
termination_by coefficient
decreasing_by exact Nat.div_lt_self (Nat.pos_of_ne_zero h) (by decide)

def reduce (d : Decimal) : Decimal := reduceFrom d.coefficient d.exponent

/-- The double nearest to a decimal that is already reduced. -/
def round : Decimal → Float
  | ⟨c, .ofNat e⟩ => Float.ofScientific c false e
  | ⟨c, .negSucc e⟩ => Float.ofScientific c true (e + 1)

/-- The double nearest to the decimal.  It depends on the reduced form only, so that two spellings
of one number read as the same double. -/
def toFloat (d : Decimal) : Float := d.reduce.round

/-! ### Reduction -/

theorem reduceFrom_zero (e : Int) : reduceFrom 0 e = ⟨0, 0⟩ := by
  rw [reduceFrom]; simp

theorem reduceFrom_mul_ten (c : Nat) (e : Int) : reduceFrom (c * 10) e = reduceFrom c (e + 1) := by
  by_cases hc : c = 0
  · subst hc; simp [reduceFrom_zero]
  · rw [reduceFrom]
    have h10 : c * 10 ≠ 0 := by omega
    simp [h10]

theorem reduceFrom_mul_pow (c n : Nat) (e : Int) :
    reduceFrom (c * Nat.pow 10 n) e = reduceFrom c (e + n) := by
  induction n generalizing e with
  | zero => simp
  | succ n ih =>
    have hpow : c * Nat.pow 10 (n + 1) = c * Nat.pow 10 n * 10 := (Nat.mul_assoc ..).symm
    rw [hpow, reduceFrom_mul_ten, ih]
    congr 1
    omega

end Decimal

end LinProg
