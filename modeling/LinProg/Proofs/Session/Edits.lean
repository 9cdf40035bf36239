import Mathlib
import LinProg.Proofs.Matrix.Progress
import LinProg.Proofs.Session.Reference

/-!
# What calls queue

The edits that a request queues are known from the request and its model: `Request.edits`.  A request
that succeeds queues these, carries some out, and keeps the list of variables in step: `Request.takes`.
So a call that does not import changes what will be flushed by its edits and by nothing else:
`Call.run_revises`.
-/

namespace LinProg
open Operation

namespace Model

variable {m n x : Model} {edits : List Edit} {e : Edit}

/-- The handles on the columns of a model, after one more edit. -/
def relist (model : Nat) (handles : List Variable) : Edit → List Variable
  | .addColumns columns => handles ++ handlesOf model handles.length columns
  | .addColumn column _ => handles ++ handlesOf model handles.length [column]
  | .setDomain index domain => handles.modify index fun v => { v with domain }
  | .setColumnName index name => handles.modify index fun v => { v with name := some name }
  | _ => handles

/-- The model is asked for some edits: they are queued, maybe carried out, and the handles follow. -/
structure Takes (edits : List Edit) (m n : Model) : Prop where
  id : n.id = m.id
  matrix : ∃ carried, m.matrix.Carries edits carried n.matrix
  handles : n.handles = edits.foldl (relist m.id) m.handles

namespace Takes

theorem of_same (id : n.id = m.id) (matrix : n.matrix = m.matrix) (handles : n.handles = m.handles) :
    m.Takes [] n :=
  ⟨id, ⟨[], matrix ▸ .refl m.matrix⟩, handles⟩

theorem refl (m : Model) : m.Takes [] m := of_same rfl rfl rfl

theorem flushed (takes : m.Takes edits n) : m.Takes edits n.flushed := by
  obtain ⟨id, ⟨carried, carries⟩, handles⟩ := takes
  exact ⟨id, ⟨carried ++ n.matrix.queue, carries.flush⟩, handles⟩

theorem synced (takes : m.Takes edits n) : m.Takes edits n.synced := by
  unfold Model.synced
  split
  · exact takes.flushed
  · exact takes

/-- One more edit, which the matrix and the list of variables take alike. -/
theorem edit (takes : m.Takes edits n) {columns rows : Nat} (id : x.id = n.id)
    (matrix : x.matrix = n.matrix.grown e columns rows) (handles : x.handles = relist m.id n.handles e) :
    m.Takes (edits ++ [e]) x := by
  obtain ⟨same, ⟨carried, carries⟩, listed⟩ := takes
  refine ⟨id.trans same, ⟨carried, ?_⟩, ?_⟩
  · rw [matrix]
    exact carries.grown e columns rows
  · rw [handles, listed, List.foldl_append]
    rfl

/-- An edit that brings no column and changes no handle. -/
theorem plain (takes : m.Takes edits n) {columns rows : Nat} (same : ∀ handles, relist m.id handles e = handles) :
    m.Takes (edits ++ [e]) (n.edited e columns rows) :=
  takes.edit rfl rfl (same n.handles).symm

theorem withDelta (takes : m.Takes edits n) (row : Nat) (delta : RowDelta) :
    m.Takes (edits ++ if delta.isNoop then [] else [.changeCoefficients (deltaBatch row delta)])
      (n.withDelta row delta) := by
  unfold Model.withDelta
  split
  · rwa [List.append_nil]
  · exact takes.plain fun _ => rfl

theorem withRhs (takes : m.Takes edits n) (row : Nat) (installed rhs : Float) :
    m.Takes (edits ++ if installed != rhs then [.setRhs row rhs] else [])
      (n.withRhs row installed rhs) := by
  unfold Model.withRhs
  split
  · exact takes.plain fun _ => rfl
  · rwa [List.append_nil]

end Takes

theorem Listed.length (listed : m.Listed) : m.handles.length = m.matrix.columnCount := by
  have lengths := congrArg List.length listed
  simpa using lengths

/-- The column of the slack variable that a plan needs. -/
def slackEdits (plan : RowPlan) (name : Option String) : List Edit :=
  match plan.slackUpper? with
  | some width => [.addColumns [⟨0, width, 0, .continuous, name.map (· ++ "_slack")⟩]]
  | none => []

theorem takes_withSlackOf (listed : m.Listed) (plan : RowPlan) (name : Option String) :
    m.Takes (slackEdits plan name) (m.withSlackOf plan name) := by
  unfold slackEdits withSlackOf slackOf
  cases plan.slackUpper? with
  | none => exact .refl m
  | some width =>
    refine .edit (.refl m) rfl rfl ?_
    show m.handles ++ _ = m.handles ++ handlesOf m.id m.handles.length _
    rw [listed.length]
    rfl

/-- The edits that take an installed row to a new expression of its range. -/
def replacementEdits (range : Range) (expr : Expr) (installed : MatrixRow) : List Edit :=
  let delta := RowDelta.between installed.entries (withSlack (termsOf expr) range.slack)
  let rhs := range.plan.rhs expr.constant
  (if delta.isNoop then [] else [.changeCoefficients (deltaBatch range.ref.index delta)]) ++
    if installed.rhs != rhs then [.setRhs range.ref.index rhs] else []

end Model

/-! ### Requests -/

namespace Request
open Model

variable {m n : Model} {a : Answer}

/-- The edits that a request queues, if it succeeds. -/
def edits (m : Model) : Request → List Edit
  | addVariables lowers uppers domains names =>
    [.addColumns (Matrix.columnsOf lowers uppers none domains
      (some (columnNames lowers.length names)))]
  | addVariable lower upper domain name => [.addColumns [⟨lower, upper, 0, domain, name⟩]]
  | addWithColumn column lower upper domain name =>
    [.addColumn ⟨lower, upper, (column.objective.map (·.coefficient)).getD 0, domain, name⟩
      (membershipsOf column)]
  | convertDomain v domain => [.setDomain v.ref.index domain]
  | setVariableName v name => [.setColumnName v.ref.index name]
  | addRange lower expr upper name =>
    match RowPlan.ofBounds? lower upper with
    | some plan => slackEdits plan name ++
      [.addRow ⟨withSlack (termsOf expr) (slackOf m.id m.matrix.columnCount plan name),
        plan.relation, plan.rhs expr.constant, name⟩]
    | none => []
  | addRelation left relation right name =>
    [.addRow ⟨termsOf (left.sub right), relation, -(left.sub right).constant, name⟩]
  | replaceExpression range expr =>
    match m.matrix.flush.body.rows[range.ref.index]? with
    | some installed => replacementEdits range expr installed
    | none => []
  | setRangeName range name => [.setRowName range.ref.index name]
  | addObjective expr sense => [.setObjective (termsOf expr) expr.constant sense]
  | replaceObjective objective expr =>
    [.setObjective (termsOf expr) expr.constant objective.sense]
  | setLinearCoefficient _ v c => [.setObjectiveCoefficient v.ref.index c]
  | _ => []

theorem edits_of_reads {r : Request} (reads : r.readsFlushed = true) : r.edits m = [] := by
  cases r with
  | variableBounds | variableDomain | status | objectiveValue | variableAttribute | rowAttribute |
    native => rfl
  | _ => cases reads

/-- A request that succeeds queues its edits, and the list of variables follows them. -/
theorem takes (r : Request) (listed : m.Listed) (h : r.carryOut m = .ok a n) :
    m.Takes (r.edits m) n := by
  -- a request that reads what is flushed keeps the model, so only the others have a case each
  cases reads : r.readsFlushed with
  | true =>
    cases (r.keeps_carryOut reads).of_ok h
    rw [edits_of_reads reads]
    exact .refl m
  | false =>
    cases r with
    | setInt param value =>
      obtain ⟨_, done, -⟩ := of_answer h
      obtain ⟨params, -, rfl⟩ := setInt_ok done
      exact .synced (.of_same rfl rfl rfl)
    | setReal param value =>
      obtain ⟨_, done, -⟩ := of_answer h
      obtain ⟨params, -, rfl⟩ := setReal_ok done
      exact .of_same rfl rfl rfl
    | addVariables =>
      obtain ⟨_, done, -⟩ := of_answer h
      obtain ⟨-, rfl, rfl⟩ := addVariables_ok done
      refine .synced (.edit (.refl m) rfl rfl ?_)
      show m.handles ++ _ = m.handles ++ handlesOf m.id m.handles.length _
      rw [listed.length]
    | addVariable =>
      obtain ⟨_, done, -⟩ := of_answer h
      obtain ⟨rfl, rfl⟩ := addVariable_ok done
      refine .synced (.edit (.refl m) rfl rfl ?_)
      show m.handles ++ _ = m.handles ++ handlesOf m.id m.handles.length _
      rw [listed.length]
      rfl
    | objectiveColumn o c =>
      obtain ⟨_, done, -⟩ := of_answer h
      cases (keeps_objectiveColumn o c).of_ok done
      exact .refl m
    | rowColumn row c =>
      obtain ⟨_, done, -⟩ := of_answer h
      cases (keeps_rowColumn row c).of_ok done
      exact .refl m
    | addWithColumn =>
      obtain ⟨_, done, -⟩ := of_answer h
      obtain ⟨-, -, rfl, rfl⟩ := addWithColumn_ok done
      refine .synced (.edit (.refl m) rfl rfl ?_)
      show m.handles ++ _ = m.handles ++ handlesOf m.id m.handles.length _
      rw [listed.length]
      rfl
    | convertDomain =>
      obtain ⟨_, done, -⟩ := of_answer h
      obtain ⟨-, -, -, rfl⟩ := convertDomain_ok done
      exact .synced (.edit (.refl m) rfl rfl rfl)
    | setVariableName =>
      obtain ⟨_, done, -⟩ := of_answer h
      obtain ⟨-, -, rfl⟩ := setVariableName_ok done
      exact .synced (.edit (.refl m) rfl rfl rfl)
    | handles =>
      cases h
      exact .refl m
    | counts =>
      cases h
      exact .refl m
    | addRange lower expr upper name =>
      obtain ⟨_, done, -⟩ := of_answer h
      obtain ⟨plan, planned, -, -, rfl⟩ := addRange_ok_iff.1 done
      simp only [edits, planned]
      exact .synced (.plain (takes_withSlackOf listed plan name) fun _ => rfl)
    | addRelation =>
      obtain ⟨_, done, -⟩ := of_answer h
      obtain ⟨-, -, rfl⟩ := addRelation_ok_iff.1 done
      exact .synced (.plain (.refl m) fun _ => rfl)
    | replaceExpression range expr =>
      obtain ⟨_, done, -⟩ := of_answer h
      obtain ⟨-, -, -, -, installed, present, rfl⟩ := replaceExpression_ok done
      simp only [edits, present]
      exact .synced ((Takes.refl m).flushed.withDelta _ _ |>.withRhs _ _ _)
    | setRangeName =>
      obtain ⟨_, done, -⟩ := of_answer h
      obtain ⟨-, -, rfl⟩ := setRangeName_ok_iff.1 done
      exact .synced (.plain (.refl m) fun _ => rfl)
    | rowCoefficients =>
      obtain ⟨_, done, -⟩ := of_answer h
      obtain ⟨-, rfl, -⟩ := rowCoefficients_ok done
      exact (Takes.refl m).flushed
    | addObjective =>
      obtain ⟨_, done, -⟩ := of_answer h
      obtain ⟨-, -, rfl⟩ := addObjective_ok done
      exact .synced (.edit (.refl m) rfl rfl rfl)
    | replaceObjective =>
      obtain ⟨_, done, -⟩ := of_answer h
      obtain ⟨-, -, -, rfl⟩ := replaceObjective_ok done
      exact .synced (.plain (.refl m) fun _ => rfl)
    | setLinearCoefficient =>
      obtain ⟨_, done, -⟩ := of_answer h
      obtain ⟨-, -, -, rfl⟩ := setLinearCoefficient_ok done
      exact .synced (.plain (.refl m) fun _ => rfl)
    | objectiveCoefficients =>
      cases h
      exact (Takes.refl m).flushed
    | _ => cases reads

end Request

/-! ### Calls -/

namespace Model

variable {m n : Model} {edits : List Edit}

/-- The second model is the first one after some edits, carried out or not. -/
structure Revises (edits : List Edit) (m n : Model) : Prop where
  id : n.id = m.id
  body : n.matrix.flush.body = m.matrix.flush.body.applyAll edits
  handles : n.handles = edits.foldl (relist m.id) m.handles

theorem Takes.revises (takes : m.Takes edits n) : m.Revises edits n := by
  obtain ⟨id, ⟨carried, carries⟩, handles⟩ := takes
  exact ⟨id, carries.body_flush, handles⟩

end Model

namespace Call

variable {s : Session}

def edits (s : Session) : Call → List Edit
  | request r =>
    match r.carryOut s.model with
    | .ok _ _ => r.edits s.model
    | .error _ _ => []
  | _ => []

theorem edits_ok {r : Request} {a : Answer} {n : Model} (h : r.carryOut s.model = .ok a n) :
    (request r).edits s = r.edits s.model := by
  simp only [edits, h]

theorem edits_error {r : Request} {cause : ModelError} {n : Model}
    (h : r.carryOut s.model = .error cause n) : (request r).edits s = [] := by
  simp only [edits, h]

theorem takes_request (r : Request) (sound : s.Sound) (listed : s.model.Listed) :
    s.model.Takes ((request r).edits s) ((request r).run s).2.model := by
  cases result : r.carryOut s.model with
  | ok a n =>
    rw [edits_ok result, run_ok result]
    exact r.takes listed result
  | error cause n =>
    rw [edits_error result, run_error result]
    cases r.failed_unchanged sound.matrix result
    exact .refl s.model

theorem takes_export (path : String) (s : Session) :
    s.model.Takes [] ((exportModel path).run s).2.model := by
  rcases model_export path s with same | same
  · rw [same]
    exact .refl s.model
  · rw [same]
    exact (Model.Takes.refl s.model).flushed

/-- A model that was read takes the place of the model, with a handle on each of its columns. -/
theorem run_imports {call : Call} (imports : call.imports (call.run s).1 = true) :
    ∃ d : Lp.Document, (call.run s).2.model.matrix = .ofDocument d ∧
      (call.run s).2.model.id = s.workspace.nextId ∧
      (call.run s).2.model.handles =
        Model.handlesOf s.workspace.nextId 0 (Matrix.ofDocument d).body.columns := by
  cases call with
  | importModel path =>
    unfold run Workspace.importModel at imports ⊢
    dsimp only at imports ⊢
    cases read : Matrix.readFrom s.workspace.disk path with
    | error cause =>
      rw [read] at imports
      cases imports
    | ok x =>
      obtain ⟨-, -, d, -, -, rfl⟩ := Matrix.readFrom_ok_iff.1 read
      exact ⟨d, rfl, rfl, rfl⟩
  | _ => cases imports

/-- An import that does not read a model file does nothing. -/
theorem run_import_refused {path : String}
    (stays : (importModel path).imports ((importModel path).run s).1 = false) :
    ((importModel path).run s).2 = s := by
  unfold run Workspace.importModel at stays ⊢
  dsimp only at stays ⊢
  cases read : Matrix.readFrom s.workspace.disk path with
  | ok x =>
    rw [read] at stays
    cases stays
  | error cause => rfl

/-- A call that does not import changes what is to be flushed, and the list of variables, by its edits
and by nothing else. -/
theorem run_revises (call : Call) (sound : s.Sound) (listed : s.model.Listed)
    (stays : call.imports (call.run s).1 = false) :
    s.model.Revises (call.edits s) (call.run s).2.model := by
  cases call with
  | request r => exact (takes_request r sound listed).revises
  | solve installed =>
    obtain ⟨body, -, -⟩ := Matrix.flush_optimize s.model.matrix s.model.env.solver
      s.model.env.params (s.workspace.host installed)
    exact ⟨rfl, body, rfl⟩
  | exportModel path => exact (takes_export path s).revises
  | importModel path =>
    rw [run_import_refused stays]
    exact (Model.Takes.refl s.model).revises
  | others disk drawn => exact (Model.Takes.refl s.model).revises

theorem listed_run (call : Call) (sound : s.Sound) (listed : s.model.Listed) :
    (call.run s).2.model.Listed := by
  rcases call.run_advances sound with ⟨-, -, new, -⟩ | ⟨-, advances⟩
  · exact new
  · exact advances.listed listed

end Call

theorem Session.listed_after {s : Session} (calls : List Call) (sound : s.Sound)
    (listed : s.model.Listed) : (s.after calls).model.Listed := by
  induction calls generalizing s with
  | nil => exact listed
  | cons call calls ih => exact ih (call.sound_run sound) (call.listed_run sound listed)

end LinProg
