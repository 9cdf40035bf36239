import Mathlib
import LinProg.Proofs.Expr
import LinProg.Proofs.RowPlan
import LinProg.Proofs.Session.RangeRow

/-!
# What installed rows mean

An assignment gives a number to each column.  It respects the bounds of a range just if a value for the
slack variable, where there is one, completes it so that the row holds; and the row of a relation holds
just if the relation does between the two sides: `installed_rows_mean`.  Differences of doubles are taken
to be exact where the row was made from them.
-/

namespace LinProg
open Number (rational rational? AtLeast AtMost rational?_neg rational_sub rational_neg_one)
open RowPlan (Bounded IsBound Respects)

/-! ### Assignments -/

/-- The bounds of a column admit a number. -/
def MatrixColumn.Admits (c : MatrixColumn) (x : ℚ) : Prop := AtLeast x c.lower ∧ AtMost x c.upper

/-- A row holds for an assignment. -/
def MatrixRow.Holds (r : MatrixRow) (a : Nat → ℚ) : Prop := r.relation.Holds (weigh r.entries a) r.rhs

/-- An assignment differs from another one at a slack variable at most, where its value is within the
bounds that are installed. -/
def Body.Completes (body : Body) : Option Variable → (Nat → ℚ) → (Nat → ℚ) → Prop
  | some slack, a, b => ∃ column s, body.columns[slack.ref.index]? = some column ∧ column.Admits s ∧
      b = Function.update a slack.ref.index s
  | none, a, b => b = a

namespace Model

variable {m n : Model} {lower upper : Float} {expr left right : Expr} {name : Option String}
  {plan : RowPlan} {a : Nat → ℚ}

theorem weigh_termsOf (expr : Expr) (a : Nat → ℚ) :
    weigh (termsOf expr) a = weigh expr.coefficients fun ref => a ref.index := by
  unfold weigh termsOf
  rw [List.map_map]
  rfl

theorem weigh_update {terms : List (Nat × Float)} {index : Nat}
    (within : ∀ t ∈ terms, t.1 < index) (s : ℚ) :
    weigh (terms ++ [(index, -1)]) (Function.update a index s) = weigh terms a - s := by
  have same : weigh terms (Function.update a index s) = weigh terms a :=
    weigh_congr fun t listed => Function.update_of_ne (Nat.ne_of_lt (within t listed)) ..
  rw [weigh_append, same, weigh_cons, weigh_nil, rational_neg_one, Function.update_self]
  ring

/-- Completing an assignment is choosing a slack. -/
theorem completes_and_holds_iff {body : Body} {model index : Nat} {terms : List (Nat × Float)}
    {rhs : Float} (within : ∀ t ∈ terms, t.1 < index)
    (installed : ∀ v ∈ slackOf model index plan name,
      body.columns[index]? = some ⟨v.lower, v.upper, 0, v.domain, v.name⟩) (rowName : Option String) :
    (∃ b, body.Completes (slackOf model index plan name) a b ∧ MatrixRow.Holds
        ⟨withSlack terms (slackOf model index plan name), plan.relation, rhs, rowName⟩ b) ↔
      ∃ s, plan.Slack s ∧ plan.relation.Holds (weigh terms a - s) rhs := by
  unfold slackOf at installed ⊢
  unfold RowPlan.Slack
  cases needed : plan.slackUpper? with
  | none =>
    constructor
    · rintro ⟨b, rfl, (holds : plan.relation.Holds (weigh terms b) rhs)⟩
      refine ⟨0, rfl, ?_⟩
      rwa [sub_zero]
    · rintro ⟨s, rfl, holds⟩
      rw [sub_zero] at holds
      exact ⟨a, rfl, holds⟩
  | some width =>
    rw [needed] at installed
    have column := installed _ rfl
    constructor
    · rintro ⟨b, ⟨found, s, there, admits, rfl⟩, holds⟩
      cases column.symm.trans there
      refine ⟨s, admits, ?_⟩
      rw [← weigh_update within]
      exact holds
    · rintro ⟨s, admits, holds⟩
      rw [← weigh_update within] at holds
      exact ⟨_, ⟨_, s, column, admits, rfl⟩, holds⟩

/-! ### Rows of models -/

theorem columns_withSlackOf (sound : m.matrix.Sound) :
    ∀ v ∈ slackOf m.id m.matrix.columnCount plan name,
      (m.withSlackOf plan name).matrix.flush.body.columns[m.matrix.columnCount]? =
        some ⟨v.lower, v.upper, 0, v.domain, v.name⟩ := by
  intro v needed
  unfold withSlackOf
  rw [Option.mem_def.1 needed]
  show (m.matrix.extended (.addColumns [_])).flush.body.columns[_]? = _
  rw [Matrix.body_flush_extended]
  have last : m.matrix.flush.body.columns.length = m.matrix.columnCount :=
    Body.Sound.columnCount sound
  rw [← last]
  exact List.getElem?_concat_length

theorem columns_addRow (m : Model) (row : MatrixRow) :
    (m.edited (.addRow row) 0 1).synced.matrix.flush.body.columns = m.matrix.flush.body.columns := by
  rw [flush_synced]
  show (m.matrix.extended (.addRow row)).flush.body.columns = _
  rw [Matrix.body_flush_extended]
  rfl

/-- A planned range is added as a row, with the slack that its plan needs as a new column. -/
theorem addRange_installs (sound : m.matrix.Sound) (owned : m.ownsExpr expr)
    (planned : RowPlan.ofBounds? lower upper = some plan) (name : Option String) :
    let slack := slackOf m.id m.matrix.columnCount plan name
    ∃ n, addRange lower expr upper name m =
        .ok ⟨⟨m.id, m.matrix.rowCount⟩, lower, upper, name, expr, slack⟩ n ∧
      n.matrix.flush.body.rows[m.matrix.rowCount]? = some ⟨withSlack (termsOf expr) slack,
        plan.relation, plan.rhs expr.constant, name⟩ ∧
      ∀ v ∈ slack, n.matrix.flush.body.columns[m.matrix.columnCount]? =
        some ⟨v.lower, v.upper, 0, v.domain, v.name⟩ := by
  intro slack
  refine ⟨_, addRange_ok_iff.2 ⟨plan, planned, owned, rfl, rfl⟩, ?_, ?_⟩
  · have grown : (m.withSlackOf plan name).matrix.Sound :=
      (extends_withSlackOf (P := fun _ => True) plan name fun _ => trivial).sound sound
    rw [← rowCount_withSlackOf m plan name]
    exact flush_row_addRow grown _
  · rw [columns_addRow]
    exact columns_withSlackOf sound

theorem addRange_means (sound : m.matrix.Sound) (owned : m.ownsExpr expr)
    (bounded : Bounded lower upper) (name : Option String) :
    ∃ plan range n, RowPlan.ofBounds? lower upper = some plan ∧
      addRange lower expr upper name m = .ok range n ∧
      (range.slack.isSome ↔ IsBound lower ∧ IsBound upper ∧ rational lower ≠ rational upper) ∧
      (∀ v ∈ range.slack, v.ref = ⟨m.id, m.matrix.columnCount⟩) ∧
      ∃ row, n.matrix.flush.body.rows[range.ref.index]? = some row ∧
        (plan.Exact expr.constant → ∀ a, Respects lower upper (expr.value a) ↔
          ∃ b, n.matrix.flush.body.Completes range.slack a b ∧ row.Holds b) := by
  obtain ⟨plan, planned⟩ := RowPlan.exists_plan bounded
  obtain ⟨n, added, present, columns⟩ := addRange_installs sound owned planned name
  refine ⟨plan, _, n, planned, added, ?_, ?_, _, present, ?_⟩
  · rw [← RowPlan.slackUpper?_isSome_iff bounded planned]
    unfold slackOf
    rw [Option.isSome_map]
  · intro v needed
    obtain ⟨width, -, rfl⟩ := Option.mem_map.1 needed
    rfl
  · intro exact a
    refine (RowPlan.respects_iff bounded planned exact).trans ?_
    rw [← weigh_termsOf]
    exact (completes_and_holds_iff (termsOf_within owned) columns name).symm

theorem ownsExpr_sub (hl : m.ownsExpr left) (hr : m.ownsExpr right) : m.ownsExpr (left.sub right) := by
  intro t member
  obtain ⟨u, listed, same⟩ := Expr.exists_of_mem_sub member
  rw [← same]
  rcases List.mem_append.1 listed with old | new
  · exact hl u old
  · exact hr u new

theorem addRelation_means (sound : m.matrix.Sound) (hl : m.ownsExpr left) (hr : m.ownsExpr right)
    (relation : Relation) (name : Option String) :
    ∃ constraint n, addRelation left relation right name m = .ok constraint n ∧
      ∃ row, n.matrix.flush.body.rows[constraint.ref.index]? = some row ∧
        (left.ExactSub right → ∀ a,
          row.Holds a ↔ relation.Compares (left.value a) (right.value a)) := by
  let row : MatrixRow :=
    ⟨termsOf (left.sub right), relation, -(left.sub right).constant, name⟩
  refine ⟨_, _, addRelation_ok_iff.2 ⟨ownsExpr_sub hl hr, rfl, rfl⟩, row,
    flush_row_addRow sound row, ?_⟩
  intro exact a
  have rhs : rational? (-(left.sub right).constant) = some (-rational (left.sub right).constant) := by
    rw [Expr.constant_sub, rational?_neg, exact.constant, rational_sub exact.constant]
    rfl
  have difference := Expr.value_sub (a := a) exact
  unfold Expr.value at difference
  rw [← weigh_termsOf] at difference
  refine (Relation.holds_iff rhs).trans ?_
  unfold Expr.value
  cases relation <;> unfold Relation.Compares <;> constructor <;> intro <;> linarith

end Model

namespace Session

/-- Whatever was called before, the rows of ranges and of relations mean what was asked.  A slack
variable comes with a range just if both bounds count and are different; then it is a new column. -/
theorem installed_rows_mean (workspace : Workspace) (model : String) (env : Environment)
    (calls : List Call) :
    let m := ((create workspace model env).after calls).model
    (∀ (lower : Float) (expr : Expr) (upper : Float) (name : Option String),
      m.ownsExpr expr → Bounded lower upper →
      ∃ plan range n, RowPlan.ofBounds? lower upper = some plan ∧
        Model.addRange lower expr upper name m = .ok range n ∧
        (range.slack.isSome ↔ IsBound lower ∧ IsBound upper ∧ rational lower ≠ rational upper) ∧
        (∀ v ∈ range.slack, v.ref = ⟨m.id, m.matrix.columnCount⟩) ∧
        ∃ row, n.matrix.flush.body.rows[range.ref.index]? = some row ∧
          (plan.Exact expr.constant → ∀ a, Respects lower upper (expr.value a) ↔
            ∃ b, n.matrix.flush.body.Completes range.slack a b ∧ row.Holds b)) ∧
    ∀ (left : Expr) (relation : Relation) (right : Expr) (name : Option String),
      m.ownsExpr left → m.ownsExpr right →
      ∃ constraint n, Model.addRelation left relation right name m = .ok constraint n ∧
        ∃ row, n.matrix.flush.body.rows[constraint.ref.index]? = some row ∧
          (left.ExactSub right → ∀ a,
            row.Holds a ↔ relation.Compares (left.value a) (right.value a)) := by
  intro m
  have sound : m.matrix.Sound := (sound_after calls (sound_create ..)).matrix
  exact ⟨fun lower expr upper name owned bounded => Model.addRange_means sound owned bounded name,
    fun left relation right name hl hr => Model.addRelation_means sound hl hr relation name⟩

theorem installed_rows_mean_exampleSession :
    let m := exampleSession.model
    let left := (Expr.ofVariable exampleVariable).addConstant 1
    let right := Expr.term exampleVariable 2
    (∃ range n row, Model.addRange 2 left 5 none m = .ok range n ∧ range.slack.isSome = true ∧
      n.matrix.flush.body.rows[range.ref.index]? = some row ∧ ∀ a, Respects 2 5 (left.value a) ↔
        ∃ b, n.matrix.flush.body.Completes range.slack a b ∧ row.Holds b) ∧
    ∃ constraint n row, Model.addRelation left .ge right none m = .ok constraint n ∧
      n.matrix.flush.body.rows[constraint.ref.index]? = some row ∧
        ∀ a, row.Holds a ↔ right.value a ≤ left.value a := by
  intro m left right
  have ownsLeft : m.ownsExpr left := by
    intro t listed
    cases List.mem_singleton.1 listed
    rfl
  have ownsRight : m.ownsExpr right := by
    intro t listed
    cases List.mem_singleton.1 listed
    rfl
  have bounded : Bounded 2 5 := by decide +kernel
  have different : IsBound 2 ∧ IsBound 5 ∧ rational 2 ≠ rational 5 := by decide +kernel
  have exact : left.ExactSub right := by
    refine ⟨fun ref x y there here => ?_, by decide +kernel⟩
    cases List.mem_singleton.1 (Sparse.mem_toList_iff.2 there)
    cases List.mem_singleton.1 (Sparse.mem_toList_iff.2 here)
    decide +kernel
  obtain ⟨ranges, relations⟩ := installed_rows_mean .empty "test" ⟨.none, .default⟩
    [.request (.addVariable 0 4 .integer (some "x"))]
  obtain ⟨plan, range, n, planned, added, slack, -, row, present, means⟩ :=
    ranges 2 left 5 none ownsLeft bounded
  obtain ⟨constraint, n', related, row', present', means'⟩ :=
    relations left .ge right none ownsLeft ownsRight
  have ranged : RowPlan.ofBounds? 2 5 = some (.ranged 2 5) := by decide +kernel
  cases ranged.symm.trans planned
  refine ⟨⟨range, n, row, added, slack.2 different, present, means ⟨by decide +kernel, ?_⟩⟩,
    constraint, n', row', related, present', means' exact⟩
  intro lower upper same
  cases same
  decide +kernel

end Session

end LinProg
