import Mathlib
import LinProg.Model.Rows
import LinProg.Proofs.Model.Operation

/-!
# What operations on rows do

A range brings its slack variable and its row, or nothing: `addRange_ok_iff`, `harmless_addRange`.
Replacing an expression queues the difference between the installed and the desired row.
-/

namespace LinProg.Model
open Operation

variable {m n : Model} {lower upper : Float} {expr left right : Expr} {name : Option String}
  {range : Range}

/-- The slack variable of a plan, if it needs one, at a position. -/
def slackOf (model index : Nat) (plan : RowPlan) (name : Option String) : Option Variable :=
  plan.slackUpper?.map fun width =>
    ⟨⟨model, index⟩, 0, width, .continuous, name.map (· ++ "_slack")⟩

/-- The model with the slack variable of a plan, if it needs one. -/
def withSlackOf (m : Model) (plan : RowPlan) (name : Option String) : Model :=
  match slackOf m.id m.matrix.columnCount plan name with
  | some v =>
    { m.edited (.addColumns [⟨v.lower, v.upper, 0, v.domain, v.name⟩]) 1 0 with
      handles := m.handles ++ [v] }
  | none => m

@[simp] theorem id_withSlackOf (m : Model) (plan : RowPlan) (name : Option String) :
    (m.withSlackOf plan name).id = m.id := by
  unfold withSlackOf
  split <;> rfl

@[simp] theorem env_withSlackOf (m : Model) (plan : RowPlan) (name : Option String) :
    (m.withSlackOf plan name).env = m.env := by
  unfold withSlackOf
  split <;> rfl

@[simp] theorem rowCount_withSlackOf (m : Model) (plan : RowPlan) (name : Option String) :
    (m.withSlackOf plan name).matrix.rowCount = m.matrix.rowCount := by
  unfold withSlackOf
  split <;> rfl

theorem addSlack_ok_iff {width : Float} {v : Variable} :
    addSlack width name m = .ok v n ↔
      v = ⟨⟨m.id, m.matrix.columnCount⟩, 0, width, .continuous, name⟩ ∧
        n = { m.edited (.addColumns [⟨0, width, 0, .continuous, name⟩]) 1 0 with
          handles := m.handles ++ [v] } := by
  have queues := Matrix.queues_addColumns [0] [width] none none (name.map fun n => [some n])
  have column : Matrix.columnsOf [0] [width] none none (name.map fun n => [some n]) =
      [⟨0, width, 0, .continuous, name⟩] := by
    cases name <;> rfl
  have lengths : LengthMismatch.checkOption "names" 1 (name.map fun n => [some n]) = .ok ⟨⟩ := by
    cases name <;> rfl
  rw [column] at queues
  unfold addSlack
  simp only [bind_ok_iff, onMatrix_ok_iff queues, get_ok_iff, set_ok_iff, pure_ok_iff]
  constructor
  · rintro ⟨_, _, ⟨-, rfl, rfl⟩, _, _, ⟨rfl, rfl⟩, _, _, rfl, rfl, rfl⟩
    exact ⟨rfl, rfl⟩
  · rintro ⟨rfl, rfl⟩
    exact ⟨_, _, ⟨⟨rfl, rfl, rfl, lengths⟩, rfl, rfl⟩, _, _, ⟨rfl, rfl⟩, ⟨⟩, _, rfl, rfl, rfl⟩

theorem addSlack?_ok_iff {plan : RowPlan} {slack : Option Variable} :
    addSlack? plan name m = .ok slack n ↔
      slack = slackOf m.id m.matrix.columnCount plan name ∧ n = m.withSlackOf plan name := by
  unfold addSlack? withSlackOf slackOf
  cases plan.slackUpper? with
  | none => exact pure_ok_iff.trans ⟨fun h => ⟨h.1.symm, h.2.symm⟩, fun h => ⟨h.1.symm, h.2.symm⟩⟩
  | some width =>
    simp only [bind_ok_iff, addSlack_ok_iff, pure_ok_iff]
    constructor
    · rintro ⟨_, _, ⟨rfl, rfl⟩, rfl, rfl⟩
      exact ⟨rfl, rfl⟩
    · rintro ⟨rfl, rfl⟩
      exact ⟨_, _, ⟨rfl, rfl⟩, rfl, rfl⟩

theorem harmless_addSlack? (plan : RowPlan) (name : Option String) :
    Harmless (addSlack? plan name) := by
  unfold addSlack?
  cases plan.slackUpper? with
  | none => exact (Keeps.pure _).harmless
  | some width =>
    refine Harmless.bind_succeeds ?_ fun _ => .pure _
    refine (harmless_onMatrix (Matrix.queues_addColumns ..).harmless).bind_succeeds fun _ => ?_
    exact .bind .get fun _ => .bind (.set _) fun _ => .pure _

/-- The terms of a range with its slack refer to columns that exist once the slack is added. -/
theorem withSlack_within (owned : m.ownsExpr expr) (plan : RowPlan) (name : Option String) :
    ∀ t ∈ withSlack (termsOf expr) (slackOf m.id m.matrix.columnCount plan name),
      t.1 < (m.withSlackOf plan name).matrix.columnCount := by
  have terms := termsOf_within owned
  unfold withSlackOf slackOf
  cases plan.slackUpper? with
  | none => exact terms
  | some width =>
    intro t member
    rcases List.mem_append.1 member with listed | new
    · exact Nat.lt_succ_of_lt (terms t listed)
    · rw [List.mem_singleton.1 new]
      exact Nat.lt_succ_self _

theorem addRange_ok_iff :
    addRange lower expr upper name m = .ok range n ↔
      ∃ plan, RowPlan.ofBounds? lower upper = some plan ∧ m.ownsExpr expr ∧
        range = ⟨⟨m.id, m.matrix.rowCount⟩, lower, upper, name, expr,
          slackOf m.id m.matrix.columnCount plan name⟩ ∧
        n = ((m.withSlackOf plan name).edited (.addRow ⟨withSlack (termsOf expr)
          (slackOf m.id m.matrix.columnCount plan name), plan.relation, plan.rhs expr.constant,
          name⟩) 0 1).synced := by
  unfold addRange
  cases planned : RowPlan.ofBounds? lower upper with
  | none => exact iff_of_false (fun h => nomatch h) fun ⟨_, h, _⟩ => nomatch h
  | some plan =>
    simp only [bind_ok_iff, exprTerms_ok_iff, addSlack?_ok_iff,
      onMatrix_ok_iff (Matrix.queues_addRow ..), sync_ok_iff, get_ok_iff, pure_ok_iff]
    constructor
    · rintro ⟨_, _, ⟨rfl, rfl, owned⟩, _, _, ⟨rfl, rfl⟩, _, _, ⟨-, rfl, rfl⟩, _, _, rfl, _, _,
        ⟨rfl, rfl⟩, rfl, rfl⟩
      refine ⟨plan, rfl, owned, ?_, rfl⟩
      simp [edited]
    · rintro ⟨_, same, owned, rfl, rfl⟩
      cases same
      refine ⟨_, _, ⟨rfl, rfl, owned⟩, _, _, ⟨rfl, rfl⟩, _, _,
        ⟨withSlack_within owned plan name, rfl, rfl⟩, ⟨⟩, _, rfl, _, _, ⟨rfl, rfl⟩, ?_, rfl⟩
      simp [edited]

theorem harmless_addRange (lower : Float) (expr : Expr) (upper : Float) (name : Option String) :
    Harmless (addRange lower expr upper name) := by
  intro s e t h
  unfold addRange at h
  cases planned : RowPlan.ofBounds? lower upper with
  | none =>
    rw [planned] at h
    cases h
    rfl
  | some plan =>
    rw [planned] at h
    rcases bind_error_iff.1 h with failed | ⟨terms, _, checked, h⟩
    · exact (keeps_exprTerms expr).harmless.of_error failed
    · obtain ⟨rfl, rfl, owned⟩ := exprTerms_ok_iff.1 checked
      rcases bind_error_iff.1 h with failed | ⟨slack, _, added, h⟩
      · exact (harmless_addSlack? plan name).of_error failed
      · -- once the slack is added nothing can fail, so no slack is left behind
        obtain ⟨rfl, rfl⟩ := addSlack?_ok_iff.1 added
        exfalso
        rcases bind_error_iff.1 h with failed | ⟨_, _, -, h⟩
        · have passes := (onMatrix_ok_iff (Matrix.queues_addRow _ plan.relation
            (plan.rhs expr.constant) name)).2 ⟨withSlack_within owned plan name, rfl, rfl⟩
          rw [failed] at passes
          cases passes
        · exact (Succeeds.bind succeeds_sync fun _ => .bind .get fun _ => .pure _) _ _ _ h

theorem addRelation_ok_iff {relation : Relation} {constraint : Constraint} :
    addRelation left relation right name m = .ok constraint n ↔
      m.ownsExpr (left.sub right) ∧ constraint = ⟨⟨m.id, m.matrix.rowCount⟩, relation, name⟩ ∧
        n = (m.edited (.addRow ⟨termsOf (left.sub right), relation,
          -(left.sub right).constant, name⟩) 0 1).synced := by
  unfold addRelation
  simp only [bind_ok_iff, exprTerms_ok_iff, onMatrix_ok_iff (Matrix.queues_addRow ..), sync_ok_iff,
    get_ok_iff, pure_ok_iff]
  constructor
  · rintro ⟨_, _, ⟨rfl, rfl, owned⟩, _, _, ⟨-, rfl, rfl⟩, _, _, rfl, _, _, ⟨rfl, rfl⟩, rfl, rfl⟩
    refine ⟨owned, ?_, rfl⟩
    simp [edited]
  · rintro ⟨owned, rfl, rfl⟩
    refine ⟨_, _, ⟨rfl, rfl, owned⟩, _, _, ⟨termsOf_within owned, rfl, rfl⟩, ⟨⟩, _, rfl, _, _,
      ⟨rfl, rfl⟩, ?_, rfl⟩
    simp [edited]

theorem harmless_addRelation (left : Expr) (relation : Relation) (right : Expr)
    (name : Option String) : Harmless (addRelation left relation right name) := by
  refine (keeps_exprTerms _).bind_harmless fun _ => ?_
  refine (harmless_onMatrix (Matrix.queues_addRow ..).harmless).bind_succeeds fun _ => ?_
  exact .bind succeeds_sync fun _ => .bind .get fun _ => .pure _

theorem setRangeName_ok_iff {newName : String} {renamed : Range} :
    setRangeName range newName m = .ok renamed n ↔
      m.ownsRow range.ref = true ∧ renamed = { range with name := some newName } ∧
        n = (m.edited (.setRowName range.ref.index newName) 0 0).synced := by
  unfold setRangeName
  simp only [bind_ok_iff, checkRow_ok_iff, onMatrix_ok_iff (Matrix.queues_setRowName ..),
    sync_ok_iff, pure_ok_iff]
  constructor
  · rintro ⟨_, _, ⟨rfl, rfl, owned⟩, _, _, ⟨-, -, rfl⟩, _, _, rfl, rfl, rfl⟩
    exact ⟨owned, rfl, rfl⟩
  · rintro ⟨owned, rfl, rfl⟩
    exact ⟨_, _, ⟨rfl, rfl, owned⟩, ⟨⟩, _, ⟨row_within owned, trivial, rfl⟩, ⟨⟩, _, rfl, rfl, rfl⟩

theorem harmless_setRangeName (range : Range) (name : String) :
    Harmless (setRangeName range name) := by
  refine (keeps_checkRow _).bind_harmless fun _ => ?_
  refine (harmless_onMatrix (Matrix.queues_setRowName ..).harmless).bind_succeeds fun _ => ?_
  exact .bind succeeds_sync fun _ => .pure _

/-! ### Replacing the expression of a range -/

/-- The model with a delta queued for a row, unless it changes nothing. -/
def withDelta (m : Model) (row : Nat) (delta : RowDelta) : Model :=
  if delta.isNoop then m
  else m.edited (.changeCoefficients ((List.replicate delta.columns.length row).zip
    (delta.columns.zip delta.values))) 0 0

/-- The model with a right hand side queued for a row, unless it is there already. -/
def withRhs (m : Model) (row : Nat) (installed rhs : Float) : Model :=
  if installed != rhs then m.edited (.setRhs row rhs) 0 0 else m

theorem desiredEntries_ok_iff {entries : List (Nat × Float)} :
    desiredEntries range expr m = .ok entries n ↔
      m = n ∧ entries = withSlack (termsOf expr) range.slack ∧ m.ownsExpr expr ∧
        ∀ v ∈ range.slack, m.ownsColumn v.ref = true := by
  unfold desiredEntries withSlack
  simp only [bind_ok_iff, exprTerms_ok_iff]
  cases range.slack with
  | none =>
    simp only [pure_ok_iff]
    constructor
    · rintro ⟨_, _, ⟨rfl, rfl, owned⟩, rfl, rfl⟩
      exact ⟨rfl, rfl, owned, nofun⟩
    · rintro ⟨rfl, rfl, owned, -⟩
      exact ⟨_, _, ⟨rfl, rfl, owned⟩, rfl, rfl⟩
  | some v =>
    simp only [bind_ok_iff, checkVariable_ok_iff, pure_ok_iff]
    constructor
    · rintro ⟨_, _, ⟨rfl, rfl, owned⟩, _, _, ⟨rfl, rfl, mine⟩, rfl, rfl⟩
      exact ⟨rfl, rfl, owned, fun _ same => by cases same; exact mine⟩
    · rintro ⟨rfl, rfl, owned, mine⟩
      exact ⟨_, _, ⟨rfl, rfl, owned⟩, _, _, ⟨rfl, rfl, mine v rfl⟩, rfl, rfl⟩

theorem keeps_desiredEntries (range : Range) (expr : Expr) : Keeps (desiredEntries range expr) := by
  refine (keeps_exprTerms expr).bind fun terms => ?_
  cases range.slack with
  | none => exact .pure _
  | some v => exact (keeps_checkVariable v.ref).bind fun _ => .pure _

theorem applyDelta_ok {row : Nat} {delta : RowDelta} {u : Unit}
    (h : applyDelta row delta m = .ok u n) : n = m.withDelta row delta := by
  unfold applyDelta at h
  unfold withDelta
  split at h
  · rename_i noop
    rw [if_pos noop]
    exact (pure_ok_iff.1 h).2.symm
  · rename_i change
    rw [if_neg change]
    exact ((onMatrix_ok_iff (Matrix.queues_changeCoefficients ..)).1 h).2.2

theorem harmless_applyDelta (row : Nat) (delta : RowDelta) : Harmless (applyDelta row delta) := by
  unfold applyDelta
  split
  · exact (Keeps.pure _).harmless
  · exact harmless_onMatrix (Matrix.queues_changeCoefficients ..).harmless

theorem rowAttribute_rhs {x : Matrix} {row : Nat} {installed : MatrixRow}
    (present : x.body.rows[row]? = some installed) :
    x.rowAttribute .rhs [row] = .ok [installed.rhs] := by
  obtain ⟨within, same⟩ := List.getElem?_eq_some_iff.1 present
  show Matrix.pick .row x.body.rows.length (x.body.rows.map (·.rhs)) [row] = _
  unfold Matrix.pick
  simp [within, same]

theorem updateRhs_eq {row : Nat} {installed : MatrixRow} {rhs : Float}
    (present : m.matrix.body.rows[row]? = some installed) (within : row < m.matrix.rowCount) :
    updateRhs row rhs m = .ok ⟨⟩ (m.withRhs row installed.rhs rhs) := by
  unfold updateRhs withRhs
  refine bind_ok_iff.2 ⟨m, m, rfl, ?_⟩
  refine bind_ok_iff.2 ⟨_, m, lookUp_ok_iff.2 ⟨rfl, rowAttribute_rhs present⟩, ?_⟩
  rw [List.headD_cons]
  split
  · exact (onMatrix_ok_iff (Matrix.queues_setRhs ..)).2 ⟨within, rfl, rfl⟩
  · rfl

theorem row_ok_iff {x : Matrix} {row : Nat} {entries : List (Nat × Float)} :
    x.row row = .ok entries ↔ ∃ r, x.body.rows[row]? = some r ∧ entries = r.entries := by
  unfold Matrix.row
  cases x.body.rows[row]? with
  | none => exact iff_of_false (fun h => nomatch h) fun ⟨_, h, _⟩ => nomatch h
  | some r =>
    constructor
    · intro h
      cases h
      exact ⟨r, rfl, rfl⟩
    · rintro ⟨_, same, rfl⟩
      cases same
      rfl

theorem body_withDelta (m : Model) (row : Nat) (delta : RowDelta) :
    (m.withDelta row delta).matrix.body = m.matrix.body := by
  unfold withDelta
  split <;> rfl

theorem columnCount_withDelta (m : Model) (row : Nat) (delta : RowDelta) :
    (m.withDelta row delta).matrix.columnCount = m.matrix.columnCount := by
  unfold withDelta
  split <;> rfl

theorem columnCount_withRhs (m : Model) (row : Nat) (installed rhs : Float) :
    (m.withRhs row installed rhs).matrix.columnCount = m.matrix.columnCount := by
  unfold withRhs
  split <;> rfl

theorem rowCount_withDelta (m : Model) (row : Nat) (delta : RowDelta) :
    (m.withDelta row delta).matrix.rowCount = m.matrix.rowCount := by
  unfold withDelta
  split <;> rfl

theorem updateRhs_withDelta {row : Nat} {installed : MatrixRow} {delta : RowDelta} {rhs : Float}
    (present : m.matrix.body.rows[row]? = some installed) (within : row < m.matrix.rowCount) :
    updateRhs row rhs (m.withDelta row delta) =
      .ok ⟨⟩ ((m.withDelta row delta).withRhs row installed.rhs rhs) := by
  apply updateRhs_eq
  · rw [body_withDelta]
    exact present
  · rw [rowCount_withDelta]
    exact within

theorem replaceExpression_ok {after : Range} (h : replaceExpression range expr m = .ok after n) :
    m.ownsRow range.ref = true ∧ m.ownsExpr expr ∧
      (∀ v ∈ range.slack, m.ownsColumn v.ref = true) ∧ after = { range with expr } ∧
      ∃ installed, m.matrix.flush.body.rows[range.ref.index]? = some installed ∧
        n = ((m.flushed.withDelta range.ref.index
          (.between installed.entries (withSlack (termsOf expr) range.slack))).withRhs
            range.ref.index installed.rhs (range.plan.rhs expr.constant)).synced := by
  unfold replaceExpression at h
  obtain ⟨_, _, checked, h⟩ := bind_ok_iff.1 h
  obtain ⟨rfl, rfl, owned⟩ := checkRow_ok_iff.1 checked
  obtain ⟨_, _, wanted, h⟩ := bind_ok_iff.1 h
  obtain ⟨rfl, rfl, mine, slack⟩ := desiredEntries_ok_iff.1 wanted
  obtain ⟨_, _, flush, h⟩ := bind_ok_iff.1 h
  cases onMatrix_flushM_ok_iff.1 flush
  obtain ⟨_, _, read, h⟩ := bind_ok_iff.1 h
  obtain ⟨rfl, rfl⟩ := get_ok_iff.1 read
  obtain ⟨_, _, found, h⟩ := bind_ok_iff.1 h
  obtain ⟨rfl, row⟩ := lookUp_ok_iff.1 found
  obtain ⟨installed, present, rfl⟩ := row_ok_iff.1 row
  obtain ⟨_, _, delta, h⟩ := bind_ok_iff.1 h
  cases applyDelta_ok delta
  have within : range.ref.index < m.matrix.flush.rowCount := by
    rw [Matrix.rowCount_flush]
    exact row_within owned
  obtain ⟨_, _, updated, h⟩ := bind_ok_iff.1 h
  cases updated.symm.trans (updateRhs_withDelta present within)
  obtain ⟨_, _, sync, h⟩ := bind_ok_iff.1 h
  cases sync_ok_iff.1 sync
  obtain ⟨rfl, rfl⟩ := pure_ok_iff.1 h
  exact ⟨owned, mine, slack, rfl, installed, present, rfl⟩

/-- A failed replacement has flushed the model at most. -/
theorem replaceExpression_error {cause : ModelError}
    (h : replaceExpression range expr m = .error cause n) : n = m ∨ n = m.flushed := by
  unfold replaceExpression at h
  rcases bind_error_iff.1 h with failed | ⟨_, _, checked, h⟩
  · exact .inl ((keeps_checkRow _).harmless.of_error failed)
  obtain ⟨rfl, rfl, owned⟩ := checkRow_ok_iff.1 checked
  rcases bind_error_iff.1 h with failed | ⟨_, _, wanted, h⟩
  · exact .inl ((keeps_desiredEntries range expr).harmless.of_error failed)
  cases (keeps_desiredEntries range expr).of_ok wanted
  rcases bind_error_iff.1 h with failed | ⟨_, _, flush, h⟩
  · cases failed
  cases onMatrix_flushM_ok_iff.1 flush
  rcases bind_error_iff.1 h with failed | ⟨_, _, read, h⟩
  · cases failed
  obtain ⟨rfl, rfl⟩ := get_ok_iff.1 read
  rcases bind_error_iff.1 h with failed | ⟨_, _, found, h⟩
  · exact .inr ((keeps_lookUp _).harmless.of_error failed)
  obtain ⟨rfl, row⟩ := lookUp_ok_iff.1 found
  obtain ⟨installed, present, rfl⟩ := row_ok_iff.1 row
  rcases bind_error_iff.1 h with failed | ⟨_, _, delta, h⟩
  · exact .inr ((harmless_applyDelta _ _).of_error failed)
  -- the right hand side of a row that was found can be looked up and set
  cases applyDelta_ok delta
  rcases bind_error_iff.1 h with failed | ⟨_, _, updated, h⟩
  · have within : range.ref.index < m.matrix.flush.rowCount := by
      rw [Matrix.rowCount_flush]
      exact row_within owned
    cases failed.symm.trans (updateRhs_withDelta present within)
  · exact absurd h ((Succeeds.bind succeeds_sync fun _ => .pure _) _ _ _)

/-! ### Reading a row -/

theorem rowCoefficients_ok {row : Ref} {net : Sparse Nat} (h : rowCoefficients row m = .ok net n) :
    m.ownsRow row = true ∧ n = m.flushed ∧
      ∃ r, m.matrix.flush.body.rows[row.index]? = some r ∧ net = netCoefficients r.entries := by
  unfold rowCoefficients at h
  simp only [bind_ok_iff, checkRow_ok_iff, onMatrix_flushM_ok_iff, get_ok_iff, lookUp_ok_iff,
    pure_ok_iff] at h
  obtain ⟨_, _, ⟨rfl, rfl, owned⟩, _, _, rfl, _, _, ⟨rfl, rfl⟩, entries, _, ⟨rfl, found⟩, rfl, rfl⟩ := h
  obtain ⟨r, present, rfl⟩ := row_ok_iff.1 found
  exact ⟨owned, rfl, r, present, rfl⟩

theorem rowCoefficients_error {row : Ref} {cause : ModelError}
    (h : rowCoefficients row m = .error cause n) : n = m ∨ n = m.flushed := by
  unfold rowCoefficients at h
  rcases bind_error_iff.1 h with failed | ⟨_, _, checked, h⟩
  · exact .inl ((keeps_checkRow _).harmless.of_error failed)
  cases (keeps_checkRow _).of_ok checked
  rcases bind_error_iff.1 h with failed | ⟨_, _, flush, h⟩
  · cases failed
  cases onMatrix_flushM_ok_iff.1 flush
  refine .inr (Harmless.of_error ?_ h)
  refine Keeps.get.bind_harmless fun _ => ?_
  exact ((keeps_lookUp _).bind fun _ => .pure _).harmless

end LinProg.Model
