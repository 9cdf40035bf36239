import Mathlib
import LinProg.Proofs.Session.Growth

/-!
# Rows of ranges

A handle on a range describes its row, whatever calls come between: `range_describes_row`.  What it
says of a column depends on whether the column existed when the expression was installed; a `Watch`
keeps that, and the coefficients that later columns brought.
-/

namespace LinProg
open Operation

/-! ### Entries by reference -/

/-- Entries that refer to one model can be looked up by position. -/
theorem valuesAt_index {model : Nat} {entries : List (Ref × Float)}
    (live : ∀ t ∈ entries, t.1.model = model) (j : Nat) :
    valuesAt j (entries.map fun t => (t.1.index, t.2)) = valuesAt (⟨model, j⟩ : Ref) entries := by
  induction entries with
  | nil => rfl
  | cons head rest ih =>
    obtain ⟨first, others⟩ := List.forall_mem_cons.1 live
    have same : head.1.index = j ↔ head.1 = ⟨model, j⟩ :=
      ⟨fun index => Ref.eq_of first index, fun ref => congrArg Ref.index ref⟩
    rw [List.map_cons, valuesAt_cons, valuesAt_cons, ih others]
    exact if_congr same rfl rfl

namespace Model

variable {m n : Model} {expr : Expr}

theorem valuesAt_termsOf (owned : m.ownsExpr expr) (j : Nat) :
    valuesAt j (termsOf expr) = (expr.terms.get? ⟨m.id, j⟩).toList := by
  rw [← Sparse.valuesAt_toList]
  exact valuesAt_index (fun t listed => column_live (owned t listed)) j

theorem valuesAt_membershipsOf {column : Column}
    (owned : ∀ t ∈ column.rows.toList, m.ownsRow t.1 = true) (i : Nat) :
    valuesAt i (membershipsOf column) = (column.rows.get? ⟨m.id, i⟩).toList := by
  rw [← Sparse.valuesAt_toList]
  exact valuesAt_index (fun t listed => row_live (owned t listed)) i

/-- The coefficient that an expression gives a column, with the slack of its row. -/
def wantedCoefficient (model : Nat) (expr : Expr) (slack : Option Variable) (j : Nat) : Float :=
  let c := expr.terms.getD ⟨model, j⟩
  if slack.map (·.ref.index) = some j then c + -1 else c

/-- The net coefficients of the entries that a range is to have. -/
theorem agrees_desired (owned : m.ownsExpr expr) (slack : Option Variable) (j : Nat) :
    Number.Agrees ((netCoefficients (withSlack (termsOf expr) slack)).getD j)
      (wantedCoefficient m.id expr slack j) := by
  have own : Number.Agrees ((valuesAt j (termsOf expr)).foldl (· + ·) 0)
      (expr.terms.getD ⟨m.id, j⟩) := by
    rw [valuesAt_termsOf owned]
    unfold Sparse.getD
    cases expr.terms.get? ⟨m.id, j⟩ with
    | none => exact .refl _
    | some x => exact .zero_add rfl x
  unfold netCoefficients withSlack wantedCoefficient
  rw [Sparse.getD_accumulateList]
  cases slack with
  | none => exact own
  | some v =>
    dsimp only
    rw [valuesAt_append, List.foldl_append, valuesAt_cons, Option.map_some]
    by_cases here : v.ref.index = j
    · rw [if_pos here, if_pos (congrArg some here)]
      exact own.add_right (-1)
    · rw [if_neg here, if_neg fun h => here (Option.some.inj h)]
      exact own

theorem getD_eq_zero {entries : List (Nat × Float)} {columns j : Nat}
    (within : ∀ t ∈ entries, t.1 < columns) (beyond : columns ≤ j) :
    (netCoefficients entries).getD j = 0 := by
  have absent : valuesAt j entries = [] :=
    valuesAt_eq_nil fun t listed => Nat.ne_of_lt ((within t listed).trans_le beyond)
  unfold netCoefficients
  rw [Sparse.getD_accumulateList, absent]
  rfl

/-! ### Rows of models -/

theorem flush_synced (m : Model) : m.synced.matrix.flush = m.matrix.flush :=
  (agrees_synced m).matrix.symm

theorem getElem?_withDelta (m : Model) (i : Nat) (delta : RowDelta) :
    (m.withDelta i delta).matrix.flush.body.rows[i]? =
      m.matrix.flush.body.rows[i]?.map fun r =>
        { r with entries := delta.installedEntries r.entries } := by
  unfold withDelta RowDelta.installedEntries
  split
  · exact (Option.map_id' ..).symm
  · show (m.matrix.extended (.changeCoefficients (deltaBatch i delta))).flush.body.rows[i]? = _
    rw [Matrix.body_flush_extended, deltaBatch_eq, Body.apply, Body.changeCoefficients_row,
      Body.getElem?_modifyRow, if_pos rfl]

theorem getElem?_withRhs (m : Model) (i : Nat) (installed rhs : Float) :
    (m.withRhs i installed rhs).matrix.flush.body.rows[i]? =
      m.matrix.flush.body.rows[i]?.map fun r =>
        { r with rhs := if installed != rhs then rhs else r.rhs } := by
  unfold withRhs
  split
  · show (m.matrix.extended (.setRhs i rhs)).flush.body.rows[i]? = _
    rw [Matrix.body_flush_extended, Body.apply, Body.getElem?_modifyRow, if_pos rfl]
  · exact (Option.map_id' ..).symm

end Model

/-! ### Watching a range -/

/-- A handle on a range whose expression was installed last, how many columns existed then, and the
coefficient that each column brought to the row since. -/
structure Watch where
  range : Range
  existing : Nat
  later : Nat → Float

namespace Watch

variable {w : Watch}

def start (range : Range) (existing : Nat) : Watch := ⟨range, existing, fun _ => 0⟩

/-- The watch after a call on a model with some columns.  A replaced expression starts the watch
anew; a column that names the row brings its coefficient. -/
def next (w : Watch) (columns : Nat) : Call → Answer → Watch
  | .request (.replaceExpression ..), .range after =>
    if after.ref = w.range.ref then .start after columns else w
  | .request (.addWithColumn column ..), .handle v =>
    match column.rows.get? w.range.ref with
    | some c => { w with later := Function.update w.later v.ref.index c }
    | none => w
  | _, _ => w

/-- The coefficient that a column has to have in the row. -/
def coefficient (w : Watch) (j : Nat) : Float :=
  if j < w.existing then Model.wantedCoefficient w.range.ref.model w.range.expr w.range.slack j
  else w.later j

/-- The row of the range, in the flushed matrix, is as the handle says. -/
structure Describes (w : Watch) (m : Matrix) : Prop where
  existing : w.existing ≤ m.columnCount
  row : ∃ r, m.flush.body.rows[w.range.ref.index]? = some r ∧
    r.relation = w.range.plan.relation ∧
    Number.Agrees r.rhs (w.range.plan.rhs w.range.expr.constant) ∧
    ∀ j, Number.Agrees ((netCoefficients r.entries).getD j) (w.coefficient j)

/-- A row that stays as it is, but for its name, is described as before. -/
theorem Describes.of_sameRow {m n : Matrix} (h : w.Describes m)
    (columns : m.columnCount ≤ n.columnCount)
    (same : Body.SameRow w.range.ref.index m.flush.body n.flush.body) : w.Describes n := by
  obtain ⟨r, present, relation, rhs, net⟩ := h.row
  obtain ⟨name, there⟩ := same r present
  exact ⟨h.existing.trans columns, { r with name }, there, relation, rhs, net⟩

/-- A freshly installed expression is described if the row has the desired entries. -/
theorem describes_start {m : Model} {n : Matrix} {range : Range} {r : MatrixRow}
    (owned : m.ownsExpr range.expr) (live : range.ref.model = m.id)
    (within : ∀ t ∈ Model.withSlack (Model.termsOf range.expr) range.slack, t.1 < n.columnCount)
    (present : n.flush.body.rows[range.ref.index]? = some r)
    (relation : r.relation = range.plan.relation)
    (rhs : Number.Agrees r.rhs (range.plan.rhs range.expr.constant))
    (net : ∀ j, Number.Agrees ((netCoefficients r.entries).getD j)
      ((netCoefficients (Model.withSlack (Model.termsOf range.expr) range.slack)).getD j)) :
    (start range n.columnCount).Describes n := by
  refine ⟨Nat.le_refl _, r, present, relation, rhs, fun j => (net j).trans ?_⟩
  unfold coefficient start
  dsimp only
  split
  · rw [live]
    exact Model.agrees_desired owned range.slack j
  · rename_i beyond
    rw [Model.getD_eq_zero within (Nat.le_of_not_lt beyond)]
    exact .refl 0

end Watch

/-! ### Calls on a watched range -/

namespace Model

variable {m n : Model} {lower upper : Float} {expr : Expr} {name : Option String}
  {range after : Range}

theorem plan_eq {plan : RowPlan} (planned : RowPlan.ofBounds? lower upper = some plan) (ref : Ref)
    (name : Option String) (expr : Expr) (slack : Option Variable) :
    Range.plan ⟨ref, lower, upper, name, expr, slack⟩ = plan := by
  unfold Range.plan
  rw [planned]
  rfl

theorem flush_row_addRow (sound : m.matrix.Sound) (row : MatrixRow) :
    (m.edited (.addRow row) 0 1).synced.matrix.flush.body.rows[m.matrix.rowCount]? = some row := by
  rw [flush_synced]
  show (m.matrix.extended (.addRow row)).flush.body.rows[m.matrix.rowCount]? = _
  rw [Matrix.body_flush_extended]
  have last : m.matrix.flush.body.rows.length = m.matrix.rowCount := Body.Sound.rowCount sound
  rw [← last]
  exact List.getElem?_concat_length

theorem describes_addRange (sound : m.matrix.Sound)
    (h : addRange lower expr upper name m = .ok range n) :
    range.ref.model = n.id ∧ (Watch.start range n.matrix.columnCount).Describes n.matrix := by
  obtain ⟨plan, planned, owned, rfl, rfl⟩ := addRange_ok_iff.1 h
  have grown : (m.withSlackOf plan name).matrix.Sound :=
    (extends_withSlackOf (P := fun _ => True) plan name fun _ => trivial).sound sound
  have present := flush_row_addRow grown ⟨withSlack (termsOf expr)
    (slackOf m.id m.matrix.columnCount plan name), plan.relation, plan.rhs expr.constant, name⟩
  rw [rowCount_withSlackOf] at present
  constructor
  · rw [id_synced]
    exact (id_withSlackOf m plan name).symm
  refine Watch.describes_start owned rfl ?_ present ?_ ?_ fun j => .refl _
  · rw [columnCount_synced]
    exact withSlack_within owned plan name
  · exact congrArg RowPlan.relation (plan_eq planned ..).symm
  · rw [plan_eq planned]
    exact .refl _

theorem agrees_updated (installed rhs : Float) :
    Number.Agrees (if installed != rhs then rhs else installed) rhs := by
  split
  · exact .refl rhs
  · rename_i kept
    exact .of_beq (by simpa [bne] using kept)

theorem flush_row_replaceExpression (h : replaceExpression range expr m = .ok after n) :
    ∃ installed, m.matrix.flush.body.rows[range.ref.index]? = some installed ∧
      n.matrix.flush.body.rows[range.ref.index]? = some { installed with
        entries := (RowDelta.between installed.entries
          (withSlack (termsOf expr) range.slack)).installedEntries installed.entries
        rhs := if installed.rhs != range.plan.rhs expr.constant then range.plan.rhs expr.constant
          else installed.rhs } := by
  obtain ⟨-, -, -, -, installed, present, rfl⟩ := replaceExpression_ok h
  have settled : m.flushed.matrix.flush.body.rows[range.ref.index]? = some installed := by
    show m.matrix.flush.flush.body.rows[_]? = _
    rw [Matrix.flush_flush]
    exact present
  refine ⟨installed, present, ?_⟩
  rw [flush_synced, getElem?_withRhs, getElem?_withDelta, settled]
  rfl

theorem columnCount_replaceExpression (h : replaceExpression range expr m = .ok after n) :
    n.matrix.columnCount = m.matrix.columnCount := by
  obtain ⟨-, -, -, -, installed, -, rfl⟩ := replaceExpression_ok h
  rw [columnCount_synced, columnCount_withRhs, columnCount_withDelta]
  exact Matrix.columnCount_flush _

theorem describes_replaceExpression {w : Watch} (describes : w.Describes m.matrix)
    (same : range.ref = w.range.ref ∧ range.plan = w.range.plan)
    (h : replaceExpression range expr m = .ok after n) :
    (Watch.start after m.matrix.columnCount).Describes n.matrix := by
  obtain ⟨owned, mine, slack, rfl, -⟩ := replaceExpression_ok h
  obtain ⟨installed, present, row⟩ := flush_row_replaceExpression h
  have columns := columnCount_replaceExpression h
  obtain ⟨r, there, relation, -, -⟩ := describes.row
  rw [← same.1] at there
  cases present.symm.trans there
  rw [← columns]
  refine Watch.describes_start mine (row_live owned) ?_ row ?_ (agrees_updated ..)
    (RowDelta.agrees_installed installed.entries _)
  · rw [columns]
    exact desired_within mine slack
  · exact relation.trans (congrArg RowPlan.relation same.2.symm)

/-- A column that names the row of a range brings its coefficient, and nothing else. -/
theorem describes_addWithColumn {w : Watch} {column : Column} {domain : Domain} {v : Variable}
    {c : Float} (describes : w.Describes m.matrix) (sound : m.matrix.Sound)
    (live : w.range.ref.model = m.id) (named : column.rows.get? w.range.ref = some c)
    (h : addWithColumn column lower upper domain name m = .ok v n) :
    Watch.Describes { w with later := Function.update w.later v.ref.index c } n.matrix := by
  obtain ⟨-, owned, rfl, rfl⟩ := addWithColumn_ok h
  obtain ⟨r, present, relation, rhs, net⟩ := describes.row
  have ref : (⟨m.id, w.range.ref.index⟩ : Ref) = w.range.ref := Ref.eq_of live.symm rfl
  have member : valuesAt w.range.ref.index (membershipsOf column) = [c] := by
    rw [valuesAt_membershipsOf owned, ref, named]
    rfl
  have count : m.matrix.flush.body.columns.length = m.matrix.columnCount :=
    Body.Sound.columnCount sound
  refine ⟨?_, { r with entries := r.entries ++ [(m.matrix.columnCount, c)] }, ?_, relation, rhs,
    fun j => ?_⟩
  · rw [columnCount_synced]
    exact Nat.le_succ_of_le describes.existing
  · rw [flush_synced]
    show (m.matrix.extended (.addColumn _ (membershipsOf column))).flush.body.rows[_]? = _
    rw [Matrix.body_flush_extended, Body.apply, Body.getElem?_addColumn, present, member, count]
    rfl
  · have own := net j
    unfold netCoefficients at own ⊢
    rw [Sparse.getD_accumulateList] at own ⊢
    unfold Watch.coefficient at own ⊢
    dsimp only
    rw [valuesAt_append, valuesAt_cons, List.foldl_append]
    by_cases new : j = m.matrix.columnCount
    · have absent : valuesAt j r.entries = [] := valuesAt_eq_nil fun t listed =>
        new ▸ Nat.ne_of_lt (Body.Sound.within_of_getElem? sound present t listed)
      rw [if_pos new.symm, absent, if_neg (new ▸ Nat.not_lt.2 describes.existing), new,
        Function.update_self]
      exact .zero_add rfl c
    · rw [if_neg fun h => new h.symm, Function.update_of_ne new]
      exact own

end Model

/-! ### Runs on a watched range -/

/-- The handle may have another expression and another name, but is a handle on the same range. -/
structure Range.IsCopyOf (copy range : Range) : Prop where
  ref : copy.ref = range.ref
  lower : copy.lower = range.lower
  upper : copy.upper = range.upper
  slack : copy.slack = range.slack

theorem Range.IsCopyOf.refl (range : Range) : range.IsCopyOf range := ⟨rfl, rfl, rfl, rfl⟩

theorem Range.IsCopyOf.plan {copy range : Range} (h : copy.IsCopyOf range) :
    copy.plan = range.plan := by
  unfold Range.plan
  rw [h.lower, h.upper]

/-- If the call replaces the expression of a range, it does so through a copy of its handle. -/
def Call.Through (range : Range) : Call → Prop
  | request (.replaceExpression copy _) => copy.ref = range.ref → copy.IsCopyOf range
  | _ => True

/-- The watched handle is one on the range, and describes its row as long as the range is live. -/
structure Watch.Holds (w : Watch) (range : Range) (s : Session) : Prop where
  copy : w.range.IsCopyOf range
  drawn : range.ref.model < s.workspace.nextId
  describes : range.ref.model = s.model.id → w.Describes s.model.matrix

namespace Call

variable {s : Session} {w : Watch} {range : Range} {call : Call}

/-- What happens to a range that a call spares is not worth a note. -/
theorem next_of_spares (spares : call.Spares w.range.ref) (columns : Nat) :
    w.next columns call (call.run s).1 = w := by
  cases call with
  | request r =>
    cases result : r.carryOut s.model with
    | error cause m =>
      rw [run_error result]
      cases r <;> rfl
    | ok a m =>
      rw [run_ok result]
      cases r with
      | addWithColumn column lower upper domain name =>
        obtain ⟨v, _, _, h⟩ := bind_ok_iff.1 result
        obtain ⟨rfl, rfl⟩ := pure_ok_iff.1 h
        have absent : column.rows.get? w.range.ref = none := spares
        unfold Watch.next
        dsimp only
        rw [absent]
      | replaceExpression other expr =>
        obtain ⟨after, _, replaced, h⟩ := bind_ok_iff.1 result
        obtain ⟨rfl, rfl⟩ := pure_ok_iff.1 h
        obtain ⟨-, -, -, rfl, -⟩ := Model.replaceExpression_ok replaced
        exact if_neg fun same => spares same.symm
      | _ => rfl
  | _ => rfl

theorem holds_of_spares (spares : call.Spares range.ref) (sound : s.Sound)
    (holds : w.Holds range s) :
    (w.next s.model.matrix.columnCount call (call.run s).1).Holds range (call.run s).2 := by
  rw [next_of_spares (holds.copy.ref ▸ spares)]
  refine ⟨holds.copy, holds.drawn.trans_le (nextId_le_run call s), fun live => ?_⟩
  obtain ⟨before, columns, same⟩ := run_spares spares sound holds.drawn live
  exact (holds.describes before).of_sameRow columns (holds.copy.ref.symm ▸ same)

theorem holds_addWithColumn {column : Column} {lower upper : Float} {domain : Domain}
    {name : Option String} {c : Float} (named : column.rows.get? range.ref = some c)
    (sound : s.Sound) (holds : w.Holds range s) :
    let call : Call := request (.addWithColumn column lower upper domain name)
    (w.next s.model.matrix.columnCount call (call.run s).1).Holds range (call.run s).2 := by
  dsimp only
  cases result : Request.carryOut (.addWithColumn column lower upper domain name) s.model with
  | error cause m =>
    rw [run_error result]
    rcases bind_error_iff.1 result with failed | ⟨_, _, -, h⟩
    · cases (Model.harmless_addWithColumn _ _ _ _ _).of_error failed
      exact holds
    · cases h
  | ok a m =>
    rw [run_ok result]
    obtain ⟨v, t, added, h⟩ := bind_ok_iff.1 result
    obtain ⟨rfl, rfl⟩ := pure_ok_iff.1 h
    have here : column.rows.get? w.range.ref = some c := holds.copy.ref ▸ named
    unfold Watch.next
    dsimp only
    rw [here]
    refine ⟨holds.copy, holds.drawn, fun live => ?_⟩
    have id : t.id = s.model.id := by
      obtain ⟨-, -, -, rfl⟩ := Model.addWithColumn_ok added
      exact Model.id_synced _
    have before := live.trans id
    exact Model.describes_addWithColumn (holds.describes before) sound.matrix
      (holds.copy.ref ▸ before) here added

theorem holds_replaceExpression {copy : Range} {expr : Expr} (through : copy.IsCopyOf range)
    (holds : w.Holds range s) :
    let call : Call := request (.replaceExpression copy expr)
    (w.next s.model.matrix.columnCount call (call.run s).1).Holds range (call.run s).2 := by
  dsimp only
  cases result : Request.carryOut (.replaceExpression copy expr) s.model with
  | error cause m =>
    rw [run_error result]
    rcases bind_error_iff.1 result with failed | ⟨_, _, -, h⟩
    · rcases Model.replaceExpression_error failed with rfl | rfl
      · exact holds
      · refine ⟨holds.copy, holds.drawn, fun live => ?_⟩
        refine (holds.describes live).of_sameRow (Nat.le_of_eq (Matrix.columnCount_flush _).symm) ?_
        show Body.SameRow _ _ s.model.matrix.flush.flush.body
        rw [Matrix.flush_flush]
        exact .refl _ _
    · cases h
  | ok a m =>
    rw [run_ok result]
    obtain ⟨after, _, replaced, h⟩ := bind_ok_iff.1 result
    obtain ⟨rfl, rfl⟩ := pure_ok_iff.1 h
    obtain ⟨owned, -, -, same, -⟩ := Model.replaceExpression_ok replaced
    have ref : copy.ref = w.range.ref := through.ref.trans holds.copy.ref.symm
    have isCopy : after.IsCopyOf range := by
      rw [same]
      exact ⟨through.ref, through.lower, through.upper, through.slack⟩
    unfold Watch.next
    dsimp only
    rw [if_pos (isCopy.ref.trans holds.copy.ref.symm)]
    refine ⟨isCopy, holds.drawn, fun _ => ?_⟩
    have live : range.ref.model = s.model.id := through.ref ▸ Model.row_live owned
    exact Model.describes_replaceExpression (holds.describes live)
      ⟨ref, through.plan.trans holds.copy.plan.symm⟩ replaced

theorem holds_run (call : Call) (through : call.Through range) (sound : s.Sound)
    (holds : w.Holds range s) :
    (w.next s.model.matrix.columnCount call (call.run s).1).Holds range (call.run s).2 := by
  by_cases spares : call.Spares range.ref
  · exact holds_of_spares spares sound holds
  cases call with
  | request r =>
    cases r with
    | addWithColumn column =>
      obtain ⟨c, named⟩ := Option.ne_none_iff_exists'.1 spares
      exact holds_addWithColumn named sound holds
    | replaceExpression copy expr =>
      have here : copy.ref = range.ref := (not_not.1 spares).symm
      exact holds_replaceExpression (through here) holds
    | _ => exact absurd trivial spares
  | _ => exact absurd trivial spares

end Call

namespace Session

variable {s issued : Session} {w : Watch} {range : Range} {before after : List Call}

def watched : List Call → Session → Watch → Watch
  | [], _, w => w
  | call :: calls, s, w =>
    watched calls (call.run s).2 (w.next s.model.matrix.columnCount call (call.run s).1)

theorem holds_after (through : ∀ call ∈ after, call.Through range) (sound : s.Sound)
    (holds : w.Holds range s) : (s.watched after w).Holds range (s.after after) := by
  induction after generalizing s w with
  | nil => exact holds
  | cons call calls ih =>
    obtain ⟨first, rest⟩ := List.forall_mem_cons.1 through
    exact ih rest (call.sound_run sound) (call.holds_run first sound holds)

theorem holds_addRange {lower upper : Float} {expr : Expr} {name : Option String} (sound : s.Sound)
    (h : (Call.request (.addRange lower expr upper name)).run s = (.range range, issued)) :
    issued.Sound ∧ RowPlan.ofBounds? lower upper = some range.plan ∧
      (Watch.start range issued.model.matrix.columnCount).Holds range issued := by
  have after := Call.sound_run (.request (.addRange lower expr upper name)) sound
  rw [h] at after
  refine ⟨after, ?_⟩
  obtain ⟨m, result, rfl⟩ := Call.carryOut_of_run h nofun
  obtain ⟨r, _, added, last⟩ := bind_ok_iff.1 result
  obtain ⟨same, rfl⟩ := pure_ok_iff.1 last
  cases same
  obtain ⟨live, describes⟩ := Model.describes_addRange sound.matrix added
  obtain ⟨plan, planned, -, rfl, -⟩ := Model.addRange_ok_iff.1 added
  refine ⟨planned.trans (congrArg some (Model.plan_eq planned ..).symm), .refl _, ?_,
    fun _ => describes⟩
  exact live.trans_lt after.drawn

/-- The handle that a range was given out with, or that its last replacement gave, describes the
flushed row: the relation and the right hand side of its plan, and the net coefficient of every
column. -/
theorem range_describes_row {workspace : Workspace} {model : String} {env : Environment}
    {lower upper : Float} {expr : Expr} {name : Option String}
    (given : (Call.request (.addRange lower expr upper name)).run
      ((create workspace model env).after before) = (.range range, issued))
    (through : ∀ call ∈ after, call.Through range)
    (live : range.ref.model = (issued.after after).model.id) :
    let w := issued.watched after (.start range issued.model.matrix.columnCount)
    w.range.IsCopyOf range ∧ RowPlan.ofBounds? lower upper = some range.plan ∧
      ∃ row, (issued.after after).model.matrix.flush.body.rows[range.ref.index]? = some row ∧
        row.relation = range.plan.relation ∧
        ((range.plan.rhs w.range.expr.constant).isNaN = false →
          (row.rhs == range.plan.rhs w.range.expr.constant) = true) ∧
        ∀ j, (w.coefficient j).isNaN = false →
          ((netCoefficients row.entries).getD j == w.coefficient j) = true := by
  intro w
  obtain ⟨sound, planned, start⟩ := holds_addRange (sound_after before (sound_create ..)) given
  have holds := holds_after through sound start
  obtain ⟨row, present, relation, rhs, net⟩ := (holds.describes live).row
  rw [holds.copy.ref] at present
  rw [holds.copy.plan] at relation rhs
  exact ⟨holds.copy, planned, row, present, relation, rhs.beq, fun j => (net j).beq⟩

def exampleVariable : Variable := ⟨⟨0, 0⟩, 0, 4, .integer, some "x"⟩

def exampleRange : Range :=
  ⟨⟨0, 0⟩, 1, 3, some "r", .ofVariable exampleVariable,
    some ⟨⟨0, 1⟩, 0, 2, .continuous, some "r_slack"⟩⟩

def exampleSession : Session :=
  (create .empty "test" ⟨.none, .default⟩).after
    [.request (.addVariable 0 4 .integer (some "x"))]

/-- A column names the row of the range, its expression is replaced, and another column names the
row. -/
def exampleCalls : List Call :=
  [.request (.addWithColumn (.ofRow ⟨0, 0⟩ 2) 0 1 .continuous none),
    .request (.replaceExpression exampleRange (.term exampleVariable 5)),
    .request (.addWithColumn (.ofRow ⟨0, 0⟩ 7) 0 1 .continuous none),
    .request (.setVariableName exampleVariable "y")]

theorem addRange_exampleRange :
    ∃ n, Model.addRange 1 (.ofVariable exampleVariable) 3 (some "r") exampleSession.model =
      .ok exampleRange n := by
  have planned : RowPlan.ofBounds? 1 3 = some (.ranged 1 3) := by decide +kernel
  have slack : exampleRange.slack = Model.slackOf exampleSession.model.id
      exampleSession.model.matrix.columnCount (.ranged 1 3) (some "r") := by decide +kernel
  have owned : exampleSession.model.ownsExpr (.ofVariable exampleVariable) := by
    intro t listed
    cases List.mem_singleton.1 listed
    rfl
  have same := congrArg (Range.mk ⟨exampleSession.model.id, exampleSession.model.matrix.rowCount⟩
    1 3 (some "r") (.ofVariable exampleVariable)) slack
  exact ⟨_, Model.addRange_ok_iff.2 ⟨_, planned, owned, same, rfl⟩⟩

theorem range_describes_row_exampleRange :
    let call := Call.request (.addRange 1 (.ofVariable exampleVariable) 3 (some "r"))
    let issued := (call.run exampleSession).2
    call.run exampleSession = (.range exampleRange, issued) ∧
      (∀ call ∈ exampleCalls, call.Through exampleRange) ∧
      exampleRange.ref.model = (issued.after exampleCalls).model.id ∧
      let w := issued.watched exampleCalls (.start exampleRange issued.model.matrix.columnCount)
      ∃ row, (issued.after exampleCalls).model.matrix.flush.body.rows[0]? = some row ∧
        ∀ j, (w.coefficient j).isNaN = false →
          ((netCoefficients row.entries).getD j == w.coefficient j) = true := by
  intro call issued
  have given : call.run exampleSession = (.range exampleRange, issued) := by
    obtain ⟨n, added⟩ := addRange_exampleRange
    have result : Request.carryOut (.addRange 1 (.ofVariable exampleVariable) 3 (some "r"))
        exampleSession.model = .ok (.range exampleRange) n := bind_ok_iff.2 ⟨_, _, added, rfl⟩
    have ran : call.run exampleSession =
      (.range exampleRange, { exampleSession with model := n }) := Call.run_ok result
    have left : issued = { exampleSession with model := n } := congrArg Prod.snd ran
    rw [left]
    exact ran
  have through : ∀ call ∈ exampleCalls, call.Through exampleRange := by
    have all : exampleCalls.Forall (·.Through exampleRange) :=
      ⟨trivial, fun _ => .refl _, trivial, trivial⟩
    exact List.forall_iff_forall_mem.1 all
  have live : exampleRange.ref.model = (issued.after exampleCalls).model.id := by decide +kernel
  obtain ⟨-, -, row, present, -, -, net⟩ := range_describes_row given through live
  exact ⟨given, through, live, row, present, net⟩

end Session

end LinProg
