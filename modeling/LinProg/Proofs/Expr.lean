import Mathlib
import LinProg.Expr
import LinProg.Proofs.Number.Rational
import LinProg.Proofs.Sparse

/-!
# What expressions stand for

Entries weigh up the values of their keys.  An expression gets a value from those of its variables; if
the coefficients of two expressions can be subtracted exactly, the difference of the expressions has the
difference of their values: `value_sub`.
-/

namespace LinProg
open Number

/-- The sum of the entries, each times the value of its key. -/
def weigh {κ : Type} (entries : List (κ × Float)) (a : κ → ℚ) : ℚ :=
  (entries.map fun t => rational t.2 * a t.1).sum

section Weigh

variable {κ : Type} {entries more : List (κ × Float)} {a b : κ → ℚ} {k : κ} {x : Float}

@[simp] theorem weigh_nil : weigh [] a = 0 := rfl

@[simp] theorem weigh_cons : weigh ((k, x) :: entries) a = rational x * a k + weigh entries a := by
  unfold weigh
  rw [List.map_cons, List.sum_cons]

@[simp] theorem weigh_append : weigh (entries ++ more) a = weigh entries a + weigh more a := by
  unfold weigh
  rw [List.map_append, List.sum_append]

theorem weigh_congr (same : ∀ t ∈ entries, a t.1 = b t.1) : weigh entries a = weigh entries b := by
  unfold weigh
  rw [List.map_congr_left fun t listed => congrArg (rational t.2 * ·) (same t listed)]

theorem weigh_neg : weigh (entries.map fun t => (t.1, t.2 * -1)) a = -weigh entries a := by
  induction entries with
  | nil => rfl
  | cons head rest ih =>
    rw [List.map_cons, weigh_cons, ih, mul_neg_one, rational_neg, weigh_cons]
    ring

end Weigh

namespace Sparse

variable {κ : Type} [LT κ] [DecidableLT κ] [DecidableEq κ] [Key κ] {s : Sparse κ} {a : κ → ℚ}
  {k : κ} {x : Float}

theorem weigh_add (exact : ∀ v, s.get? k = some v → rational (v + x) = rational v + rational x) :
    weigh (s.add k x).toList a = weigh s.toList a + rational x * a k := by
  have listed : ∀ v, (k, v) ∈ s.toList → rational (v + x) = rational v + rational x :=
    fun v member => exact v (mem_toList_iff.1 member)
  unfold add alter
  dsimp only
  generalize s.toList = entries at listed
  induction entries with
  | nil => simp [alterList]
  | cons head rest ih =>
    obtain ⟨j, v⟩ := head
    rw [alterList]
    split
    · rw [weigh_cons]
      ring
    · split
      · rename_i same
        subst same
        rw [weigh_cons, weigh_cons, listed v List.mem_cons_self]
        ring
      · rw [weigh_cons, weigh_cons, ih fun w member => listed w (List.mem_cons_of_mem _ member)]
        ring

theorem weigh_foldl_add {entries : List (κ × Float)}
    (distinct : entries.Pairwise fun t u => t.1 ≠ u.1)
    (exact : ∀ t ∈ entries, ∀ v, s.get? t.1 = some v →
      rational (v + t.2) = rational v + rational t.2) :
    weigh (entries.foldl (fun s t => s.add t.1 t.2) s).toList a =
      weigh s.toList a + weigh entries a := by
  induction entries generalizing s with
  | nil => simp
  | cons head rest ih =>
    obtain ⟨first, others⟩ := List.pairwise_cons.1 distinct
    obtain ⟨here, further⟩ := List.forall_mem_cons.1 exact
    rw [List.foldl_cons, ih others, weigh_add here, weigh_cons]
    · ring
    · intro t member v found
      rw [get?_add, if_neg (Ne.symm (first t member))] at found
      exact further t member v found

end Sparse

namespace Expr

variable {left right : Expr} {a : Nat → ℚ}

/-- The value of an expression, with values for the columns of the model. -/
def value (e : Expr) (a : Nat → ℚ) : ℚ :=
  weigh e.coefficients (fun ref => a ref.index) + rational e.constant

/-- Coefficients that two expressions give one variable, and their constants, can be subtracted
exactly. -/
structure ExactSub (left right : Expr) : Prop where
  coefficients : ∀ ref x y, left.terms.get? ref = some x → right.terms.get? ref = some y →
    Number.ExactSub x y
  constant : Number.ExactSub left.constant right.constant

theorem constant_sub (left right : Expr) :
    (left.sub right).constant = left.constant - right.constant := by
  show left.constant + right.constant * -1 = _
  rw [mul_neg_one, add_neg]

theorem value_sub (exact : left.ExactSub right) :
    (left.sub right).value a = left.value a - right.value a := by
  have terms : weigh (left.sub right).coefficients (fun ref => a ref.index) =
      weigh left.coefficients (fun ref => a ref.index) -
        weigh right.coefficients (fun ref => a ref.index) := by
    refine (Sparse.weigh_foldl_add (Sparse.distinct_toList _) ?_).trans ?_
    · intro t member v found
      obtain ⟨⟨ref, y⟩, listed, rfl⟩ := List.mem_map.1 member
      have difference := exact.coefficients ref v y found (Sparse.mem_toList_iff.1 listed)
      dsimp only
      rw [mul_neg_one, add_neg, rational_sub difference, rational_neg]
      ring
    · rw [sub_eq_add_neg, ← weigh_neg]
      rfl
  unfold value
  rw [terms, constant_sub, rational_sub exact.constant]
  ring

theorem exists_of_mem_sub {t : Ref × Float} (member : t ∈ (left.sub right).coefficients) :
    ∃ u ∈ left.coefficients ++ right.coefficients, u.1 = t.1 := by
  obtain ⟨u, listed, same⟩ := Sparse.exists_of_mem_foldl_add member
  rcases List.mem_append.1 listed with old | new
  · exact ⟨u, List.mem_append_left _ old, same⟩
  · obtain ⟨v, there, rfl⟩ := List.mem_map.1 new
    exact ⟨v, List.mem_append_right _ there, same⟩

end Expr

end LinProg
