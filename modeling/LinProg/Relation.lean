/-!
# Relations and senses

How a row relates its expression to its right hand side, and which way an objective goes.
-/

namespace LinProg

/-- How a row relates to its right hand side. -/
inductive Relation where
  | le
  | eq
  | ge
deriving DecidableEq, Repr

namespace Relation

def symbol : Relation → String
  | le => "<="
  | eq => "="
  | ge => ">="

def ofSymbol? (symbol : String) : Option Relation := [le, eq, ge].find? (·.symbol = symbol)

/-- The relation with its two sides exchanged. -/
def reverse : Relation → Relation
  | le => ge
  | eq => eq
  | ge => le

theorem reverse_reverse (r : Relation) : r.reverse.reverse = r := by
  cases r <;> rfl

end Relation

inductive Sense where
  | minimize
  | maximize
deriving DecidableEq, Repr

end LinProg
