import LinProg.Number.Text
import LinProg.Sparse

/-!
# Variables

A variable is a handle on a column of one model.  It caches the bounds, domain and name it was
created with; copying it creates no new column.
-/

namespace LinProg

/-- A column or a row of one model, which is known by its number. -/
structure Ref where
  model : Nat
  index : Nat
deriving DecidableEq, Repr

namespace Ref

/-- References are ordered by model, then by index. -/
instance : LT Ref where
  lt a b := a.model < b.model ∨ a.model = b.model ∧ a.index < b.index

instance : DecidableLT Ref := fun a b =>
  inferInstanceAs (Decidable (a.model < b.model ∨ a.model = b.model ∧ a.index < b.index))

theorem lt_def {a b : Ref} :
    a < b ↔ a.model < b.model ∨ a.model = b.model ∧ a.index < b.index := Iff.rfl

instance : Key Ref where
  irrefl a h := by rw [lt_def] at h; omega
  trans {a b c} hab hbc := by rw [lt_def] at *; omega
  connex a b h hne := by
    rw [lt_def] at *
    have : a.model = b.model → a.index ≠ b.index := fun hm hi =>
      hne (by cases a; cases b; simp_all)
    omega

end Ref

/-- The values a variable may take between its bounds. -/
inductive Domain where
  | continuous
  | integer
  | binary
deriving DecidableEq, Repr

namespace Domain

def label : Domain → String
  | continuous => "Continuous"
  | integer => "Integer"
  | binary => "Binary"

def ofLabel? (label : String) : Option Domain :=
  [continuous, integer, binary].find? (·.label = label)

/-- Whether a solver must give the variable a whole value. -/
def isIntegral : Domain → Bool
  | continuous => false
  | integer | binary => true

/-- A bound of a whole-valued variable is whole or infinite. -/
def isIntegralBound (bound : Float) : Bool := bound.isInf || Number.isWhole bound

def acceptsBounds (lower upper : Float) : Domain → Bool
  | continuous => true
  | integer => isIntegralBound lower && isIntegralBound upper
  | binary =>
    isIntegralBound lower && isIntegralBound upper && decide (0 ≤ lower) && decide (upper ≤ 1)

end Domain

/-- A handle on a column. -/
structure Variable where
  ref : Ref
  lower : Float
  upper : Float
  domain : Domain
  name : Option String
deriving DecidableEq

end LinProg
