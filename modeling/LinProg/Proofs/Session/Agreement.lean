import Mathlib
import LinProg.Proofs.Model.Agreement
import LinProg.Proofs.Session.Call

/-!
# Calls on models that agree

A call has the same answer on two models that agree, unless it reads flushed content while edits are
queued, and leaves models that agree and the same workspace.
-/

namespace LinProg
open Operation

/-! ### Solvers and the update mode -/

theorem Params.AgreesWith.eq {p q : Params} (agree : p.AgreesWith q) :
    q = { p with updateMode := q.updateMode } := by
  cases p
  cases q
  cases agree
  rfl

namespace Program

theorem arguments_updateMode (p : Program) (problem solution : String) (params : Params)
    (mode : Int) :
    p.arguments problem solution { params with updateMode := mode } =
      p.arguments problem solution params := by
  unfold arguments
  cases p.kind <;> rfl

theorem run_updateMode (p : Program) (problem : Problem) (params : Params) (mode : Int) :
    p.run problem { params with updateMode := mode } = p.run problem params := by
  unfold run launch
  simp only [arguments_updateMode]

end Program

namespace Solver

theorem run_updateMode (s : Solver) (problem : Problem) (params : Params) (mode : Int) :
    s.run problem { params with updateMode := mode } = s.run problem params := by
  unfold run
  induction s generalizing problem with
  | leaf p =>
    cases p with
    | none => rfl
    | some p => exact p.run_updateMode problem params mode
  | chain first second ih ih' =>
    unfold runWith
    rw [ih, ih, ih']

theorem run_agrees {p q : Params} (agree : p.AgreesWith q) (s : Solver) (problem : Problem) :
    s.run problem p = s.run problem q :=
  (s.run_updateMode problem p q.updateMode).symm.trans (congrArg (s.run problem) agree.eq.symm)

end Solver

/-! ### Parameters -/

namespace Params

variable {p q : Params}

theorem AgreesWith.setInt (agree : p.AgreesWith q) (param : IntParam) (value : Int) :
    (∃ p' q', p.setInt param value = .ok p' ∧ q.setInt param value = .ok q' ∧ p'.AgreesWith q') ∨
      ∃ cause, p.setInt param value = .error cause ∧ q.setInt param value = .error cause := by
  unfold Params.setInt
  split
  · refine .inl ⟨_, _, rfl, rfl, ?_⟩
    rw [agree.eq]
    cases param <;> rfl
  · exact .inr ⟨_, rfl, rfl⟩

theorem AgreesWith.setReal (agree : p.AgreesWith q) (param : RealParam) (value : Float) :
    (∃ p' q', p.setReal param value = .ok p' ∧ q.setReal param value = .ok q' ∧
        p'.AgreesWith q') ∨
      ∃ cause, p.setReal param value = .error cause ∧ q.setReal param value = .error cause := by
  unfold Params.setReal
  split
  · refine .inl ⟨_, _, rfl, rfl, ?_⟩
    rw [agree.eq]
    cases param <;> rfl
  · exact .inr ⟨_, rfl, rfl⟩

end Params

namespace Model

variable {m n : Model}

theorem Agrees.withParams (agree : m.Agrees n) {p q : Params} (params : p.AgreesWith q) :
    { m with env := { m.env with params := p } }.Agrees
      { n with env := { n.env with params := q } } :=
  ⟨agree.id, agree.solver, params, agree.matrix, agree.handles, agree.generation⟩

theorem lockstep_setInt (param : IntParam) (value : Int) :
    Lockstep Agrees Agrees (setInt param value) := by
  refine .get_bind fun m n agree => ?_
  rcases agree.params.setInt param value with ⟨p, q, left, right, params⟩ | ⟨cause, left, right⟩
  · rw [left, right]
    exact lockstep_sync _ _ (agree.withParams params)
  · rw [left, right]
    exact ⟨rfl, agree⟩

theorem lockstep_setReal (param : RealParam) (value : Float) :
    Lockstep Agrees Agrees (setReal param value) := by
  refine .get_bind fun m n agree => ?_
  rcases agree.params.setReal param value with ⟨p, q, left, right, params⟩ | ⟨cause, left, right⟩
  · rw [left, right]
    exact ⟨rfl, agree.withParams params⟩
  · rw [left, right]
    exact ⟨rfl, agree⟩

end Model

/-! ### Requests -/

namespace Request
open Model (Agrees SameMatrix)

theorem lockstep_answer {α : Type} {P : Model → Model → Prop} {op : ModelM α}
    (steps : Lockstep P P op) (f : α → Answer) : Lockstep P P (do return f (← op)) :=
  .bind steps fun _ => .pure _

/-- Models that agree answer a request alike, unless it reads flushed content. -/
theorem lockstep_carryOut (r : Request) (blind : r.readsFlushed = false) :
    Lockstep Agrees Agrees r.carryOut := by
  cases r with
  | setInt param value => exact lockstep_answer (Model.lockstep_setInt param value) _
  | setReal param value => exact lockstep_answer (Model.lockstep_setReal param value) _
  | addVariables => exact lockstep_answer (Model.lockstep_addVariables _ _ _ _) _
  | addVariable => exact lockstep_answer (Model.lockstep_addVariable _ _ _ _) _
  | objectiveColumn => exact lockstep_answer (Model.lockstep_objectiveColumn _ _) _
  | rowColumn => exact lockstep_answer (Model.lockstep_rowColumn _ _) _
  | addWithColumn => exact lockstep_answer (Model.lockstep_addWithColumn _ _ _ _ _) _
  | convertDomain => exact lockstep_answer (Model.lockstep_convertDomain _ _) _
  | setVariableName => exact lockstep_answer (Model.lockstep_setVariableName _ _) _
  | handles =>
    refine .get_bind fun m n agree => ?_
    rw [agree.handles]
    exact ⟨rfl, agree⟩
  | counts =>
    intro m n agree
    exact ⟨congrArg₂ Answer.counts agree.matrix.columnCount agree.matrix.rowCount, agree⟩
  | addRange => exact lockstep_answer (Model.lockstep_addRange _ _ _ _) _
  | addRelation => exact lockstep_answer (Model.lockstep_addRelation _ _ _ _) _
  | replaceExpression => exact lockstep_answer (Model.lockstep_replaceExpression _ _) _
  | setRangeName => exact lockstep_answer (Model.lockstep_setRangeName _ _) _
  | rowCoefficients => exact lockstep_answer (Model.lockstep_rowCoefficients _) _
  | addObjective => exact lockstep_answer (Model.lockstep_addObjective _ _) _
  | replaceObjective => exact lockstep_answer (Model.lockstep_replaceObjective _ _) _
  | setLinearCoefficient => exact lockstep_answer (Model.lockstep_setLinearCoefficient _ _ _) _
  | objectiveCoefficients => exact lockstep_answer Model.lockstep_objectiveCoefficients _
  | _ => cases blind

/-- Looking up something in the matrix, after some checks, has the same result on the same matrix. -/
theorem same_lookUp {α : Type} {f : Matrix → Except MatrixError α} :
    Lockstep SameMatrix SameMatrix (do Model.lookUp (f (← get).matrix)) := by
  refine .get_bind fun m n same => ?_
  rw [same.2]
  exact Model.lockstep_lookUp _ m n same

/-- Models with the same matrix answer alike if the request reads flushed content. -/
theorem same_carryOut (r : Request) (reads : r.readsFlushed = true) :
    Lockstep SameMatrix SameMatrix r.carryOut := by
  have check := Model.lockstep_checkVariable (fun m n (same : SameMatrix m n) => same.1)
  have checkRow := Model.lockstep_checkRow (fun m n (same : SameMatrix m n) => same.1)
  cases r with
  | variableBounds v =>
    refine .bind (.bind (check _) fun index => .get_bind fun m n same => ?_) fun _ => .pure _
    rw [same.2]
    refine Lockstep.bind (Model.lockstep_lookUp _) (fun lower => ?_) m n same
    exact .bind (Model.lockstep_lookUp _) fun upper => .pure _
  | variableDomain v =>
    refine lockstep_answer (.bind (check _) fun index => .get_bind fun m n same => ?_) _
    rw [same.2]
    cases n.matrix.body.columns[index]? with
    | some c => exact ⟨rfl, same⟩
    | none => exact ⟨rfl, same⟩
  | status =>
    refine .get_bind fun m n same => ?_
    rw [same.2]
    exact ⟨rfl, same⟩
  | objectiveValue => exact lockstep_answer same_lookUp _
  | variableAttribute what vs =>
    refine lockstep_answer (.bind (.mapM (fun _ => check _) _) fun columns => ?_) _
    exact same_lookUp (f := (·.columnAttribute what columns))
  | rowAttribute what rows =>
    refine lockstep_answer (.bind (.mapM (fun _ => checkRow _) _) fun indices => ?_) _
    exact same_lookUp (f := (·.rowAttribute what indices))
  | native =>
    refine .get_bind fun m n same => ?_
    rw [same.2]
    exact ⟨rfl, same⟩
  | _ => cases reads

theorem keeps_carryOut (r : Request) (reads : r.readsFlushed = true) : Keeps r.carryOut := by
  cases r with
  | variableBounds v => exact (Model.keeps_variableBounds v).bind fun _ => .pure _
  | variableDomain v => exact (Model.keeps_variableDomain v).bind fun _ => .pure _
  | status => exact .bind .get fun _ => .pure _
  | objectiveValue =>
    exact .bind (.bind .get fun _ => Model.keeps_lookUp _) fun _ => .pure _
  | variableAttribute what vs =>
    refine .bind (.bind (.mapM (fun _ => Model.keeps_checkVariable _) _) fun _ => ?_) fun _ => .pure _
    exact .bind .get fun _ => Model.keeps_lookUp _
  | rowAttribute what rows =>
    refine .bind (.bind (.mapM (fun _ => Model.keeps_checkRow _) _) fun _ => ?_) fun _ => .pure _
    exact .bind .get fun _ => Model.keeps_lookUp _
  | native => exact .bind .get fun _ => .pure _
  | _ => cases reads

end Request

/-! ### Calls -/

/-- The same session, but for the update mode and the edits still in the queue of its model. -/
structure Session.Agrees (s t : Session) : Prop where
  workspace : s.workspace = t.workspace
  model : s.model.Agrees t.model

namespace Call

/-- Whether the answer shows flushed content without a flush before. -/
def readsFlushed : Call → Bool
  | request r => r.readsFlushed
  | _ => false

variable {s t : Session}

theorem run_ok {r : Request} {a : Answer} {m : Model} (h : r.carryOut s.model = .ok a m) :
    (request r).run s = (a, { s with model := m }) := by
  unfold run
  dsimp only
  rw [h]

theorem run_error {r : Request} {cause : ModelError} {m : Model}
    (h : r.carryOut s.model = .error cause m) :
    (request r).run s = (.failed cause, { s with model := m }) := by
  unfold run
  dsimp only
  rw [h]

/-- A request whose answer is not a failure has succeeded. -/
theorem carryOut_of_run {r : Request} {a : Answer} (h : (request r).run s = (a, t))
    (answered : ∀ cause, a ≠ .failed cause) :
    ∃ m, r.carryOut s.model = .ok a m ∧ t = { s with model := m } := by
  cases result : r.carryOut s.model with
  | ok b m =>
    rw [run_ok result] at h
    cases h
    exact ⟨m, rfl, rfl⟩
  | error cause m =>
    rw [run_error result] at h
    cases h
    exact absurd rfl (answered cause)

theorem run_request {P Q : Model → Model → Prop} {r : Request} (steps : Lockstep P Q r.carryOut)
    (related : P s.model t.model) (workspace : s.workspace = t.workspace) :
    ((request r).run s).1 = ((request r).run t).1 ∧
      ((request r).run s).2.workspace = ((request r).run t).2.workspace ∧
      Q ((request r).run s).2.model ((request r).run t).2.model := by
  have ends := steps _ _ related
  cases left : r.carryOut s.model with
  | ok a m =>
    cases right : r.carryOut t.model with
    | ok b n =>
      rw [left, right] at ends
      rw [run_ok left, run_ok right]
      exact ⟨ends.1, workspace, ends.2⟩
    | error cause n =>
      rw [left, right] at ends
      exact ends.elim
  | error cause m =>
    cases right : r.carryOut t.model with
    | ok b n =>
      rw [left, right] at ends
      exact ends.elim
    | error cause' n =>
      rw [left, right] at ends
      rw [run_error left, run_error right]
      exact ⟨congrArg Answer.failed ends.1, workspace, ends.2⟩

theorem optimize_agrees {x y : Matrix} (agree : x.Agrees y) {p q : Params}
    (params : p.AgreesWith q) (solver : Solver) (host : Host) :
    x.optimize solver p host = y.optimize solver q host := by
  have same : x.flush = y.flush := agree
  unfold Matrix.optimize
  rw [same]
  dsimp only
  rw [Solver.run_agrees params]

theorem lockstep_writeTo (disk : Disk) (path : String) :
    Lockstep Matrix.Agrees Matrix.Agrees (Matrix.writeTo disk path) := by
  unfold Matrix.writeTo
  split
  · refine .bind' Matrix.lockstep_flushM (fun _ => .get_bind fun x y same => ?_) fun _ _ same => same ▸ rfl
    rw [same]
    cases disk.write path (y.body.problem y.name).text.toUTF8 with
    | ok disk => exact ⟨rfl, rfl⟩
    | error cause => exact ⟨rfl, rfl⟩
  · exact .throw_bind _ _

theorem run_solve (agree : s.Agrees t) (installed : List (String × List Response)) :
    ((solve installed).run s).1 = ((solve installed).run t).1 ∧
      ((solve installed).run s).2.Agrees ((solve installed).run t).2 := by
  have ends := optimize_agrees agree.model.matrix agree.model.params s.model.env.solver
    (s.workspace.host installed)
  unfold run Model.solve
  dsimp only
  rw [ends, agree.workspace, agree.model.solver]
  exact ⟨rfl, rfl, agree.model.withMatrix rfl⟩

theorem run_export (agree : s.Agrees t) (path : String) :
    ((exportModel path).run s).1 = ((exportModel path).run t).1 ∧
      ((exportModel path).run s).2.Agrees ((exportModel path).run t).2 := by
  have ends := Model.lockstep_onMatrix (lockstep_writeTo s.workspace.disk path) _ _ agree.model
  unfold run Workspace.exportModel
  dsimp only
  rw [← agree.workspace]
  cases left : Model.onMatrix (Matrix.writeTo s.workspace.disk path) s.model with
  | ok d m =>
    cases right : Model.onMatrix (Matrix.writeTo s.workspace.disk path) t.model with
    | ok e n =>
      rw [left, right] at ends
      obtain ⟨rfl, after⟩ := ends
      exact ⟨rfl, rfl, after⟩
    | error cause n =>
      rw [left, right] at ends
      exact ends.elim
  | error cause m =>
    cases right : Model.onMatrix (Matrix.writeTo s.workspace.disk path) t.model with
    | ok e n =>
      rw [left, right] at ends
      exact ends.elim
    | error cause' n =>
      rw [left, right] at ends
      obtain ⟨rfl, after⟩ := ends
      exact ⟨rfl, rfl, after⟩

theorem run_import (agree : s.Agrees t) (path : String) :
    ((importModel path).run s).1 = ((importModel path).run t).1 ∧
      ((importModel path).run s).2.Agrees ((importModel path).run t).2 := by
  unfold run Workspace.importModel
  dsimp only
  rw [agree.workspace]
  cases Matrix.readFrom t.workspace.disk path with
  | error cause => exact ⟨rfl, rfl, agree.model⟩
  | ok x => exact ⟨rfl, rfl, rfl, agree.model.solver, agree.model.params, rfl, rfl, rfl⟩

/-- Sessions that agree answer a call alike and agree after it.  If the call reads flushed content,
the matrices have to be the same. -/
theorem run_agrees (call : Call) (agree : s.Agrees t)
    (blind : call.readsFlushed = true → s.model.matrix = t.model.matrix) :
    (call.run s).1 = (call.run t).1 ∧ (call.run s).2.Agrees (call.run t).2 := by
  cases call with
  | request r =>
    cases reads : r.readsFlushed with
    | false =>
      obtain ⟨answer, workspace, model⟩ :=
        run_request (r.lockstep_carryOut reads) agree.model agree.workspace
      exact ⟨answer, workspace, model⟩
    | true =>
      obtain ⟨answer, workspace, model⟩ :=
        run_request (r.same_carryOut reads) ⟨agree.model, blind reads⟩ agree.workspace
      exact ⟨answer, workspace, model.1⟩
  | solve installed => exact run_solve agree installed
  | exportModel path => exact run_export agree path
  | importModel path => exact run_import agree path
  | others disk drawn =>
    exact ⟨rfl, congrArg (fun w : Workspace => Workspace.mk disk (w.nextId + drawn)) agree.workspace,
      agree.model⟩

/-- What reads flushed content leaves the session as it is. -/
theorem run_reading (call : Call) (reads : call.readsFlushed = true) : (call.run s).2 = s := by
  cases call with
  | request r =>
    have keeps := (r.keeps_carryOut reads) s.model
    cases result : r.carryOut s.model with
    | ok a m =>
      rw [run_ok result]
      rw [result] at keeps
      cases keeps
      rfl
    | error cause m =>
      rw [run_error result]
      rw [result] at keeps
      cases keeps
      rfl
  | _ => cases reads

/-- Whatever the call, sessions that agree do so after it. -/
theorem agrees_run (call : Call) (agree : s.Agrees t) : (call.run s).2.Agrees (call.run t).2 := by
  cases reads : call.readsFlushed with
  | false => exact (run_agrees call agree fun read => nomatch reads.symm.trans read).2
  | true =>
    rw [run_reading call reads, run_reading call reads]
    exact agree

end Call

end LinProg
