import Mathlib
import LinProg.Proofs.Number.Overflow
import LinProg.Proofs.Session.RowMeaning

/-!
# The upper sides of two-sided ranges

The row of a range with two bounds limits its expression from below, and from above just as far as its
slack is limited.  The width of the bounds is a difference of doubles, which may be too large for one: the
upper side is there if and only if it is not, by `upper_side_iff`.
-/

namespace LinProg
open Number (rational rational? rational?_zero atLeast_iff atMost_iff AtMost infinity overflow
  isFinite_iff sub_cases lt_iff_rational rational_of_rational?)
open RowPlan (IsBound)

namespace Number

variable {bound : Float} {x : ℚ}

/-- A bound that is finite or positive infinity limits a number if it is finite. -/
theorem atMost_iff_of_isFinite (shape : bound.isFinite = true ∨ bound = infinity) :
    AtMost x bound ↔ (bound.isFinite = true → x ≤ rational bound) := by
  rcases shape with finite | rfl
  · obtain ⟨q, found⟩ := isFinite_iff.1 finite
    rw [atMost_iff found, rational_of_rational? found, forall_prop_of_true finite]
  · exact iff_of_true (.inl rfl) (fun finite => absurd finite (by decide +kernel))

end Number

theorem Relation.holds_eq_iff {x : ℚ} {rhs : Float} :
    Relation.eq.Holds x rhs ↔ rational? rhs = some x := by
  constructor
  · rintro ⟨below | ⟨q, found, le⟩, above | ⟨p, found', ge⟩⟩
    · rw [below] at above
      exact absurd above (by decide +kernel)
    · rw [below] at found'
      cases found'
    · rw [above] at found
      cases found
    · cases found.symm.trans found'
      rw [found, le_antisymm ge le]
  · intro found
    exact (Relation.holds_iff found).2 rfl

namespace RowPlan

variable {lower upper : Float}

theorem ofBounds?_of_lt (hl : IsBound lower) (hu : IsBound upper) (less : lower < upper) :
    ofBounds? lower upper = some (ranged lower upper) := by
  have different := ((lt_iff_rational hl.rational? hu.rational?).1 less).ne
  obtain ⟨-, -, same, -⟩ | ⟨-, -, -, plan⟩ | ⟨-, absent, -⟩ | ⟨absent, -⟩ :=
    ofBounds?_cases (.inl ⟨hl, hu⟩)
  · exact absurd same different
  · exact plan
  · exact absurd hu absent
  · exact absurd hl absent

/-- The width of two bounds is finite just if the exact one is below the overflow; otherwise it is
infinity. -/
theorem width_cases (hl : IsBound lower) (hu : IsBound upper) (less : lower < upper) :
    ((upper - lower).isFinite = true ↔ rational upper - rational lower < overflow) ∧
      ((upper - lower).isFinite = true ∨ upper - lower = infinity) := by
  have order := (lt_iff_rational hl.rational? hu.rational?).1 less
  have cases := sub_cases hu.rational? hl.rational?
  rw [abs_of_pos (sub_pos.2 order), if_neg order.not_gt] at cases
  rcases cases with ⟨below, finite⟩ | ⟨above, infinite⟩
  · exact ⟨iff_of_true finite below, .inl finite⟩
  · refine ⟨iff_of_false ?_ above.not_gt, .inr infinite⟩
    rw [infinite]
    decide +kernel

/-- With a slack, a row of two bounds limits a number from below, and from above if the width is finite. -/
theorem exists_slack_iff (hl : IsBound lower) (hu : IsBound upper) (less : lower < upper)
    {x : ℚ} {rhs : Float} :
    (∃ s, (ranged lower upper).Slack s ∧ Relation.eq.Holds (x - s) rhs) ↔
      ∃ r, rational? rhs = some r ∧ r ≤ x ∧
        ((upper - lower).isFinite = true → x ≤ r + rational (upper - lower)) := by
  have width (s : ℚ) := Number.atMost_iff_of_isFinite (x := s) (width_cases hl hu less).2
  have slack (s : ℚ) : (ranged lower upper).Slack s ↔
      0 ≤ s ∧ ((upper - lower).isFinite = true → s ≤ rational (upper - lower)) :=
    and_congr (atLeast_iff rational?_zero) (width s)
  simp only [slack, Relation.holds_eq_iff]
  constructor
  · rintro ⟨s, ⟨nonneg, limited⟩, found⟩
    exact ⟨x - s, found, by linarith, fun finite => by linarith [limited finite]⟩
  · rintro ⟨r, found, ge, limited⟩
    refine ⟨x - r, ⟨by linarith, fun finite => by linarith [limited finite]⟩, ?_⟩
    rw [found, sub_sub_cancel]

end RowPlan

namespace Session

/-- Whatever was called before, a range with two bounds is installed with a slack variable, and its row
together with the bounds of the slack limits the expression, less its constant, from below by the right
hand side.  It limits it from above just if the exact width of the bounds is below the overflow, and then
by the width more; otherwise the slack is unbounded. -/
theorem upper_side_iff (workspace : Workspace) (model : String) (env : Environment)
    (calls : List Call) (lower upper : Float) (expr : Expr) (name : Option String) :
    let m := ((create workspace model env).after calls).model
    m.ownsExpr expr → IsBound lower → IsBound upper → lower < upper →
      ∃ range n slack column row,
        Model.addRange lower expr upper name m = .ok range n ∧ range.slack = some slack ∧
        n.matrix.flush.body.columns[slack.ref.index]? = some column ∧
        n.matrix.flush.body.rows[range.ref.index]? = some row ∧
        slack.lower = 0 ∧ slack.upper = upper - lower ∧
        column.lower = slack.lower ∧ column.upper = slack.upper ∧
        row.rhs = lower - expr.constant ∧
        (column.upper.isFinite = true ↔ rational upper - rational lower < overflow) ∧
        (column.upper.isFinite = true ∨ column.upper = infinity) ∧
        ∀ a, (∃ b, n.matrix.flush.body.Completes range.slack a b ∧ row.Holds b) ↔
          ∃ r, rational? row.rhs = some r ∧ r ≤ weigh (Model.termsOf expr) a ∧
            (column.upper.isFinite = true →
              weigh (Model.termsOf expr) a ≤ r + rational column.upper) := by
  intro m owned hl hu less
  have sound : m.matrix.Sound := (sound_after calls (sound_create ..)).matrix
  have planned := RowPlan.ofBounds?_of_lt hl hu less
  obtain ⟨n, added, present, columns⟩ := Model.addRange_installs sound owned planned name
  obtain ⟨finite, shape⟩ := RowPlan.width_cases hl hu less
  refine ⟨_, n, _, _, _, added, rfl, columns _ rfl, present, rfl, rfl, rfl, rfl, rfl, finite, shape,
    fun a => ?_⟩
  -- a slack completes an assignment just if it makes up for what the row lacks
  refine Iff.trans ?_ (RowPlan.exists_slack_iff hl hu less)
  exact Model.completes_and_holds_iff (Model.termsOf_within owned) columns name

/-- Between `-1e308` and `1e308` there is no upper side: whatever is not below the lower bound will do. -/
theorem upper_side_iff_wideRange :
    let m := exampleSession.model
    let expr := Expr.ofVariable exampleVariable
    ∃ range n slack column row,
      Model.addRange (-1e308) expr 1e308 (some "r") m = .ok range n ∧ range.slack = some slack ∧
      n.matrix.flush.body.columns[slack.ref.index]? = some column ∧ column.upper = infinity ∧
      n.matrix.flush.body.rows[range.ref.index]? = some row ∧
      ∀ a, rational (-1e308) ≤ weigh (Model.termsOf expr) a →
        ∃ b, n.matrix.flush.body.Completes range.slack a b ∧ row.Holds b := by
  intro m expr
  have owned : m.ownsExpr expr := by
    intro t listed
    cases List.mem_singleton.1 listed
    rfl
  obtain ⟨range, n, slack, column, row, added, needed, present, installed, -, -, -, -, rhs, finite,
    shape, limits⟩ := upper_side_iff .empty "test" ⟨.none, .default⟩
      [.request (.addVariable 0 4 .integer (some "x"))] (-1e308) 1e308 expr (some "r") owned
      (by decide +kernel) (by decide +kernel) (by decide +kernel)
  have infinite : column.upper.isFinite ≠ true := fun h => absurd (finite.1 h) (by decide +kernel)
  refine ⟨range, n, slack, column, row, added, needed, present, shape.resolve_left infinite,
    installed, fun a above => (limits a).2 ⟨_, ?_, above, fun h => absurd h infinite⟩⟩
  rw [rhs]
  decide +kernel

end Session

end LinProg
