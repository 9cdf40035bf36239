import LinProg.Number.Text
import LinProg.Relation

/-!
# Row plans

A range `lower ≤ expr ≤ upper` becomes one row.  Two different finite bounds need a slack variable:
the row is then `expr - slack = lower` with the slack between zero and `upper - lower`.  A lower
bound at or below the least finite double is no bound, and neither is an upper bound at or above
the largest.
-/

namespace LinProg

/-- How a range becomes a row. -/
inductive RowPlan where
  /-- `expr - slack = lower`, with a slack of at most `upper - lower`. -/
  | ranged (lower upper : Float)
  /-- `expr ≥ lower` -/
  | atLeast (lower : Float)
  /-- `expr ≤ upper` -/
  | atMost (upper : Float)
  /-- `expr = value` -/
  | equal (value : Float)
deriving DecidableEq

namespace RowPlan

/-- The plan for a pair of bounds; an undefined bound has none, nor has a pair without a bound. -/
def ofBounds? (lower upper : Float) : Option RowPlan :=
  if lower.isNaN || upper.isNaN then none
  else match decide (-Number.largest < lower), decide (upper < Number.largest) with
    | true, true => if lower == upper then some (equal lower) else some (ranged lower upper)
    | true, false => some (atLeast lower)
    | false, true => some (atMost upper)
    | false, false => none

def relation : RowPlan → Relation
  | ranged .. | equal _ => .eq
  | atLeast _ => .ge
  | atMost _ => .le

/-- The bound that the row compares with. -/
def bound : RowPlan → Float
  | ranged lower _ => lower
  | atLeast lower => lower
  | atMost upper => upper
  | equal value => value

def rhs (plan : RowPlan) (constant : Float) : Float := plan.bound - constant

/-- The upper bound of the slack variable, for a plan that needs one. -/
def slackUpper? : RowPlan → Option Float
  | ranged lower upper => some (upper - lower)
  | _ => none

end RowPlan

end LinProg
