import Mathlib
import LinProg.Model.Variables
import LinProg.Proofs.Model.Rows
import LinProg.Proofs.RowPlan

/-!
# Bounds that are refused

A range is refused for its bounds if one is undefined, or if neither limits its own side:
`bounds_refused`.  So a pair in which no bound counts is accepted if one of them lies beyond the largest
double on the other side.
-/

namespace LinProg.Model
open Number Operation RowPlan

variable {m : Model} {lower upper : Float} {expr : Expr} {name : Option String}

theorem addRange_refused_iff (owned : m.ownsExpr expr) :
    addRange lower expr upper name m = .error (.invalidBounds lower upper) m ↔
      ofBounds? lower upper = none := by
  cases planned : ofBounds? lower upper with
  | none =>
    refine iff_of_true ?_ rfl
    unfold addRange
    rw [planned]
    rfl
  | some plan =>
    refine iff_of_false (fun failed => ?_) nofun
    have passes : addRange lower expr upper name m = .ok _ _ :=
      addRange_ok_iff.2 ⟨plan, planned, owned, rfl, rfl⟩
    rw [failed] at passes
    cases passes

theorem addRange_succeeds_iff (owned : m.ownsExpr expr) :
    (∃ range n, addRange lower expr upper name m = .ok range n) ↔ ofBounds? lower upper ≠ none := by
  rw [Option.ne_none_iff_exists']
  constructor
  · rintro ⟨range, n, added⟩
    obtain ⟨plan, planned, -⟩ := addRange_ok_iff.1 added
    exact ⟨plan, planned⟩
  · rintro ⟨plan, planned⟩
    exact ⟨_, _, addRange_ok_iff.2 ⟨plan, planned, owned, rfl, rfl⟩⟩

/-- A range is refused for its bounds if one is undefined, or if the lower one is at most the least finite
double and the upper one at least the largest.  Any other range is added if its variables are live, and the
shorter forms follow suit.  So a pair in which no bound counts is added if one lies on the other side. -/
theorem bounds_refused (owned : m.ownsExpr expr) (name : Option String) :
    (∀ lower upper : Float,
      let refused := lower.isNaN = true ∨ upper.isNaN = true ∨ lower ≤ -largest ∧ largest ≤ upper
      (addRange lower expr upper name m = .error (.invalidBounds lower upper) m ↔ refused) ∧
        ((∃ range n, addRange lower expr upper name m = .ok range n) ↔ ¬refused) ∧
        (addEmptyRange lower upper name m = .error (.invalidBounds lower upper) m ↔ refused)) ∧
    (∀ value : Float, addEq expr value name m = .error (.invalidBounds value value) m ↔
      value.isNaN = true) ∧
    (∀ upper : Float, addLe expr upper name m = .error (.invalidBounds (-infinity) upper) m ↔
      upper.isNaN = true ∨ largest ≤ upper) ∧
    (∀ lower : Float, addGe expr lower name m = .error (.invalidBounds lower infinity) m ↔
      lower.isNaN = true ∨ lower ≤ -largest) ∧
    ∀ lower upper : Float, lower.isNaN = false → upper.isNaN = false →
      ¬IsBound lower → ¬IsBound upper →
        ((∃ range n, addRange lower expr upper name m = .ok range n) ↔
          largest ≤ lower ∨ upper ≤ -largest) := by
  have empty : m.ownsExpr .zero := nofun
  refine ⟨?_, ?_, ?_, ?_, ?_⟩
  · intro lower upper refused
    refine ⟨(addRange_refused_iff owned).trans ofBounds?_eq_none_iff,
      (addRange_succeeds_iff owned).trans ofBounds?_eq_none_iff.not,
      (addRange_refused_iff empty).trans ofBounds?_eq_none_iff⟩
  · intro value
    refine (addRange_refused_iff owned).trans (ofBounds?_eq_none_iff.trans ?_)
    simp only [not_absent_twice, or_false, or_self]
  · intro upper
    refine (addRange_refused_iff owned).trans (ofBounds?_eq_none_iff.trans ?_)
    have number : (-infinity).isNaN = false := by decide +kernel
    have absent : -infinity ≤ -largest := by decide +kernel
    simp only [number, absent, Bool.false_eq_true, false_or, true_and]
  · intro lower
    refine (addRange_refused_iff owned).trans (ofBounds?_eq_none_iff.trans ?_)
    have number : infinity.isNaN = false := by decide +kernel
    have absent : largest ≤ infinity := by decide +kernel
    simp only [number, absent, Bool.false_eq_true, false_or, and_true]
  · intro lower upper hl hu noLower noUpper
    rw [addRange_succeeds_iff owned, Ne, ofBounds?_eq_none_iff]
    simp only [hl, hu, Bool.false_eq_true, false_or]
    constructor
    · intro accepted
      rcases (not_isBound_iff hl).1 noLower with below | above
      · rcases (not_isBound_iff hu).1 noUpper with below' | above'
        · exact .inr below'
        · exact absurd ⟨below, above'⟩ accepted
      · exact .inl above
    · rintro (above | below) ⟨left, right⟩
      · exact not_absent_twice lower ⟨left, above⟩
      · exact not_absent_twice upper ⟨below, right⟩

def boundedVariable : Variable := ⟨⟨0, 0⟩, 0, 4, .continuous, some "x"⟩

def boundedModel : Model :=
  final (addVariable 0 4 .continuous (some "x") (create 0 "test" ⟨.none, .default⟩))

/-- Two infinite bounds that leave no number between them are accepted, others are refused. -/
theorem bounds_refused_infinite :
    boundedModel.ownsExpr (.ofVariable boundedVariable) ∧
      (∃ range n, addRange infinity (.ofVariable boundedVariable) infinity none boundedModel =
        .ok range n) ∧
      addRange (-infinity) (.ofVariable boundedVariable) infinity none boundedModel =
        .error (.invalidBounds (-infinity) infinity) boundedModel := by
  have owned : boundedModel.ownsExpr (.ofVariable boundedVariable) := by
    intro t listed
    cases List.mem_singleton.1 listed
    rfl
  obtain ⟨all, -, -, -, absent⟩ := bounds_refused owned none
  refine ⟨owned, (absent infinity infinity ?_ ?_ ?_ ?_).2 ?_, (all (-infinity) infinity).1.2 ?_⟩
  all_goals decide +kernel

end LinProg.Model
