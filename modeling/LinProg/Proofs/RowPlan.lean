import Mathlib
import LinProg.Proofs.Number.Rational
import LinProg.RowPlan

/-!
# What row plans ask for

A bound counts if it is smaller in magnitude than the largest double.  A pair of bounds of which each
counts, or is at most absent on its own side, has a plan, and values respect the bounds just if the row
of the plan holds with some slack: `respects_iff`.
-/

namespace LinProg

namespace Number

/-- `x ≤ bound`, where the bound may be infinite. -/
def AtMost (x : ℚ) (bound : Float) : Prop :=
  bound = infinity ∨ ∃ q, rational? bound = some q ∧ x ≤ q

/-- `bound ≤ x`, where the bound may be infinite. -/
def AtLeast (x : ℚ) (bound : Float) : Prop :=
  bound = -infinity ∨ ∃ q, rational? bound = some q ∧ q ≤ x

variable {bound : Float} {x q : ℚ}

theorem atMost_iff (h : rational? bound = some q) : AtMost x bound ↔ x ≤ q := by
  constructor
  · rintro (rfl | ⟨p, found, le⟩)
    · cases h
    · cases h.symm.trans found
      exact le
  · exact fun le => .inr ⟨q, h, le⟩

theorem atLeast_iff (h : rational? bound = some q) : AtLeast x bound ↔ q ≤ x := by
  constructor
  · rintro (rfl | ⟨p, found, le⟩)
    · cases h
    · cases h.symm.trans found
      exact le
  · exact fun le => .inr ⟨q, h, le⟩

end Number

open Number

namespace Relation

/-- How a relation compares two numbers. -/
def Compares : Relation → ℚ → ℚ → Prop
  | le, x, y => x ≤ y
  | eq, x, y => x = y
  | ge, x, y => y ≤ x

def Holds : Relation → ℚ → Float → Prop
  | le, x, rhs => AtMost x rhs
  | eq, x, rhs => AtLeast x rhs ∧ AtMost x rhs
  | ge, x, rhs => AtLeast x rhs

theorem holds_iff {r : Relation} {x q : ℚ} {rhs : Float} (h : rational? rhs = some q) :
    r.Holds x rhs ↔ r.Compares x q := by
  cases r with
  | le => exact atMost_iff h
  | eq =>
    show AtLeast x rhs ∧ AtMost x rhs ↔ x = q
    rw [atLeast_iff h, atMost_iff h]
    exact ⟨fun ⟨low, high⟩ => le_antisymm high low, fun same => ⟨same.ge, same.le⟩⟩
  | ge => exact atLeast_iff h

end Relation

namespace RowPlan

variable {lower upper : Float} {plan : RowPlan} {constant : Float} {x : ℚ}

/-- A double that counts as a bound: any other one is as large as the largest double, or undefined. -/
def IsBound (b : Float) : Prop := -largest < b ∧ b < largest

instance (b : Float) : Decidable (IsBound b) := inferInstanceAs (Decidable (_ ∧ _))

theorem IsBound.rational? {b : Float} (h : IsBound b) : rational? b = some (rational b) := by
  obtain ⟨q, found⟩ := rational?_of_lt_of_lt h.1 h.2
  rw [found, rational_of_rational? found]

/-- A pair of bounds of which one counts at least, and the other one counts or is none on its own
side. -/
def Bounded (lower upper : Float) : Prop :=
  IsBound lower ∧ IsBound upper ∨ IsBound lower ∧ largest ≤ upper ∨ lower ≤ -largest ∧ IsBound upper

instance (lower upper : Float) : Decidable (Bounded lower upper) :=
  inferInstanceAs (Decidable (_ ∨ _ ∨ _))

/-- A number lies between two bounds, of which each counts or is none. -/
def Respects (lower upper : Float) (x : ℚ) : Prop :=
  (IsBound lower → rational lower ≤ x) ∧ (IsBound upper → x ≤ rational upper)

/-! ### The plan of a pair of bounds -/

theorem not_isNaN_largest : largest.isNaN = false ∧ (-largest).isNaN = false := by decide +kernel

theorem ofBounds?_of_isNaN (undefined : lower.isNaN = true ∨ upper.isNaN = true) :
    ofBounds? lower upper = none := by
  unfold ofBounds?
  rw [if_pos (by simpa using undefined)]

theorem ofBounds?_of_numbers (hl : lower.isNaN = false) (hu : upper.isNaN = false) :
    ofBounds? lower upper =
      if -largest < lower then
        if upper < largest then some (if lower == upper then equal lower else ranged lower upper)
        else some (atLeast lower)
      else if upper < largest then some (atMost upper) else none := by
  unfold ofBounds?
  simp only [hl, hu, Bool.or_self, Bool.false_eq_true, if_false]
  by_cases low : -largest < lower <;> by_cases high : upper < largest <;>
    by_cases same : lower == upper <;> simp [low, high, same]

/-- A pair of bounds has no plan if one is undefined, or if neither limits its own side. -/
theorem ofBounds?_eq_none_iff :
    ofBounds? lower upper = none ↔
      lower.isNaN = true ∨ upper.isNaN = true ∨ lower ≤ -largest ∧ largest ≤ upper := by
  cases hl : lower.isNaN with
  | true => exact iff_of_true (ofBounds?_of_isNaN (.inl hl)) (.inl rfl)
  | false =>
    cases hu : upper.isNaN with
    | true => exact iff_of_true (ofBounds?_of_isNaN (.inr hu)) (.inr (.inl rfl))
    | false =>
      obtain ⟨top, bottom⟩ := not_isNaN_largest
      rw [ofBounds?_of_numbers hl hu, ← not_lt_iff bottom hl, ← not_lt_iff hu top]
      by_cases low : -largest < lower <;> by_cases high : upper < largest <;> simp [low, high]

theorem not_isBound_of_le (below : lower ≤ -largest) : ¬-largest < lower := by
  obtain ⟨number, bottom⟩ := not_isNaN_of_le below
  exact (not_lt_iff bottom number).2 below

theorem not_isBound_of_ge (above : largest ≤ upper) : ¬upper < largest := by
  obtain ⟨top, number⟩ := not_isNaN_of_le above
  exact (not_lt_iff number top).2 above

theorem not_absent_twice (b : Float) : ¬(b ≤ -largest ∧ largest ≤ b) := by
  rintro ⟨below, above⟩
  have positive : 0 < largest := by decide +kernel
  exact not_le_neg_of_le positive above below

theorem not_isBound_iff {b : Float} (number : b.isNaN = false) :
    ¬IsBound b ↔ b ≤ -largest ∨ largest ≤ b := by
  obtain ⟨top, bottom⟩ := not_isNaN_largest
  rw [IsBound, not_and_or, not_lt_iff bottom number, not_lt_iff number top]

/-- A bounded pair has a plan, by which of its bounds count and whether they are one number. -/
theorem ofBounds?_cases (bounded : Bounded lower upper) :
    (IsBound lower ∧ IsBound upper ∧ rational lower = rational upper ∧
      ofBounds? lower upper = some (equal lower)) ∨
    (IsBound lower ∧ IsBound upper ∧ rational lower ≠ rational upper ∧
      ofBounds? lower upper = some (ranged lower upper)) ∨
    (IsBound lower ∧ ¬IsBound upper ∧ ofBounds? lower upper = some (atLeast lower)) ∨
    (¬IsBound lower ∧ IsBound upper ∧ ofBounds? lower upper = some (atMost upper)) := by
  rcases bounded with ⟨hl, hu⟩ | ⟨hl, hu⟩ | ⟨hl, hu⟩
  · have same := beq_iff_rational hl.rational? hu.rational?
    have plan := ofBounds?_of_numbers (not_isNaN_of_lt hl.1).2 (not_isNaN_of_lt hu.1).2
    rw [if_pos hl.1, if_pos hu.2] at plan
    by_cases equal : lower == upper
    · rw [if_pos equal] at plan
      exact .inl ⟨hl, hu, same.1 equal, plan⟩
    · rw [if_neg equal] at plan
      exact .inr (.inl ⟨hl, hu, fun h => equal (same.2 h), plan⟩)
  · have absent := not_isBound_of_ge hu
    have plan := ofBounds?_of_numbers (not_isNaN_of_lt hl.1).2 (not_isNaN_of_le hu).2
    rw [if_pos hl.1, if_neg absent] at plan
    exact .inr (.inr (.inl ⟨hl, fun h => absent h.2, plan⟩))
  · have absent := not_isBound_of_le hl
    have plan := ofBounds?_of_numbers (not_isNaN_of_le hl).1 (not_isNaN_of_lt hu.1).2
    rw [if_neg absent, if_pos hu.2] at plan
    exact .inr (.inr (.inr ⟨fun h => absent h.1, hu, plan⟩))

theorem exists_plan (bounded : Bounded lower upper) : ∃ plan, ofBounds? lower upper = some plan := by
  obtain ⟨-, -, -, plan⟩ | ⟨-, -, -, plan⟩ | ⟨-, -, plan⟩ | ⟨-, -, plan⟩ := ofBounds?_cases bounded
  all_goals exact ⟨_, plan⟩

theorem slackUpper?_isSome_iff (bounded : Bounded lower upper)
    (planned : ofBounds? lower upper = some plan) :
    plan.slackUpper?.isSome ↔ IsBound lower ∧ IsBound upper ∧ rational lower ≠ rational upper := by
  obtain ⟨hl, hu, same, shape⟩ | ⟨hl, hu, other, shape⟩ | ⟨hl, hu, shape⟩ | ⟨hl, hu, shape⟩ :=
    ofBounds?_cases bounded
  all_goals
    cases shape.symm.trans planned
    simp_all [slackUpper?]

/-! ### Slack -/

/-- The right hand side of a row for an expression with a constant is exact, and so is the width of the
slack, if there is one. -/
structure Exact (plan : RowPlan) (constant : Float) : Prop where
  rhs : ExactSub plan.bound constant
  width : ∀ lower upper, plan = ranged lower upper → ExactSub upper lower

/-- The values that the slack of a row may take; a row without slack variable has no slack. -/
def Slack (plan : RowPlan) (s : ℚ) : Prop :=
  match plan.slackUpper? with
  | some width => AtLeast s 0 ∧ AtMost s width
  | none => s = 0

theorem slack_ranged (exact : (ranged lower upper).Exact constant) (s : ℚ) :
    (ranged lower upper).Slack s ↔ 0 ≤ s ∧ s ≤ rational upper - rational lower :=
  and_congr (atLeast_iff rational?_zero) (atMost_iff (exact.width lower upper rfl))

/-- A number respects the bounds just if, less the constant, it satisfies the row with some slack. -/
theorem respects_iff (bounded : Bounded lower upper) (planned : ofBounds? lower upper = some plan)
    (exact : plan.Exact constant) :
    Respects lower upper (x + rational constant) ↔
      ∃ s, plan.Slack s ∧ plan.relation.Holds (x - s) (plan.rhs constant) := by
  have rhs (s : ℚ) : plan.relation.Holds (x - s) (plan.rhs constant) ↔
      plan.relation.Compares (x - s) (rational plan.bound - rational constant) :=
    Relation.holds_iff exact.rhs
  simp only [rhs]
  unfold Respects
  obtain ⟨hl, hu, same, shape⟩ | ⟨hl, hu, -, shape⟩ | ⟨hl, hu, shape⟩ | ⟨hl, hu, shape⟩ :=
    ofBounds?_cases bounded
  all_goals
    cases shape.symm.trans planned
    simp only [hl, hu, true_imp_iff, false_imp_iff, and_true, true_and]
  · simp only [Slack, slackUpper?, exists_eq_left, relation, bound, Relation.Compares]
    constructor
    · rintro ⟨low, high⟩
      linarith
    · intro equal
      constructor <;> linarith
  · simp only [slack_ranged exact, relation, bound, Relation.Compares]
    constructor
    · rintro ⟨low, high⟩
      refine ⟨x + rational constant - rational lower, ⟨?_, ?_⟩, ?_⟩ <;> linarith
    · rintro ⟨s, ⟨low, high⟩, equal⟩
      constructor <;> linarith
  · simp only [Slack, slackUpper?, exists_eq_left, relation, bound, Relation.Compares]
    constructor <;> intro <;> linarith
  · simp only [Slack, slackUpper?, exists_eq_left, relation, bound, Relation.Compares]
    constructor <;> intro <;> linarith

end RowPlan

end LinProg
