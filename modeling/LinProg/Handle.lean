import LinProg.Expr
import LinProg.Relation
import LinProg.RowPlan

/-!
# Handles on rows and on the objective

A range and a plain constraint both designate a row.  An objective handle designates one
generation of the objective of a model.
-/

namespace LinProg

/-- A handle on the row of `lower ≤ expr ≤ upper`. -/
structure Range where
  ref : Ref
  lower : Float
  upper : Float
  name : Option String
  expr : Expr
  slack : Option Variable

/-- The plan of the row.  The bounds had a plan when the range was created. -/
def Range.plan (r : Range) : RowPlan :=
  (RowPlan.ofBounds? r.lower r.upper).getD (.equal r.lower)

/-- A handle on a row that relates two expressions. -/
structure Constraint where
  ref : Ref
  relation : Relation
  name : Option String

/-- A handle on one generation of an objective, with the expression last installed through it. -/
structure Objective where
  model : Nat
  generation : Nat
  sense : Sense
  expr : Expr

end LinProg
