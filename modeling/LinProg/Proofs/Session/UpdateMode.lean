import Mathlib
import LinProg.Proofs.Matrix.File
import LinProg.Proofs.Session.Agreement

/-!
# Lazy and immediate updates

With immediate updates nothing is queued between two calls: `idle_run`.  A program that neither sets
the update mode nor reads flushed content while edits are queued cannot tell whether updates are lazy
or immediate: `lazy_like_immediate`.
-/

namespace LinProg
open Operation

namespace Params

theorem updateMode_of_setInt {p q : Params} {param : IntParam} {value : Int}
    (set : p.setInt param value = .ok q) (other : param ≠ .updateMode) :
    q.updateMode = p.updateMode := by
  unfold Params.setInt at set
  split at set
  · cases param with
    | updateMode => exact absurd rfl other
    | _ =>
      cases set
      rfl
  · cases set

theorem updateMode_of_setReal {p q : Params} {param : RealParam} {value : Float}
    (set : p.setReal param value = .ok q) : q.updateMode = p.updateMode := by
  unfold Params.setReal at set
  split at set
  · cases param <;>
    · cases set
      rfl
  · cases set

theorem immediateUpdates_of_mode {p q : Params} (same : q.updateMode = p.updateMode)
    (immediate : p.immediateUpdates = true) : q.immediateUpdates = true := by
  unfold Params.immediateUpdates at immediate ⊢
  rw [same]
  exact immediate

end Params

namespace Model

variable {m n : Model} {α : Type}

/-- Updates are immediate and none is queued. -/
structure Idle (m : Model) : Prop where
  immediate : m.env.params.immediateUpdates = true
  queue : m.matrix.queue = []

theorem Idle.flushed (idle : m.Idle) : m.flushed = m := by
  unfold Model.flushed
  rw [Matrix.flush_of_queue idle.queue]

theorem idle_synced (immediate : m.env.params.immediateUpdates = true) : m.synced.Idle := by
  constructor
  · rw [env_synced]
    exact immediate
  · unfold synced
    rw [if_pos immediate]
    exact Matrix.queue_flush _

/-- The operation leaves an idle model idle, whether it succeeds or fails. -/
def Settles (op : ModelM α) : Prop := ∀ m, m.Idle → (final (op m)).Idle

theorem Settles.of_keeps {op : ModelM α} (keeps : Keeps op) : Settles op := by
  intro m idle
  rw [keeps m]
  exact idle

/-- Operations that flush last settle a model, if they do nothing but flush it when they fail. -/
theorem Settles.of_synced {op : ModelM α}
    (ok : ∀ {m a n}, op m = .ok a n → ∃ x : Model, n = x.synced ∧ x.env = m.env)
    (error : ∀ {m cause n}, op m = .error cause n → n = m ∨ n = m.flushed) : Settles op := by
  intro m idle
  cases result : op m with
  | ok a n =>
    obtain ⟨x, rfl, same⟩ := ok result
    exact idle_synced (same ▸ idle.immediate)
  | error cause n =>
    rcases error result with rfl | rfl
    · exact idle
    · show m.flushed.Idle
      rw [idle.flushed]
      exact idle

theorem Settles.of_harmless {op : ModelM α} (harmless : Harmless op)
    (ok : ∀ {m a n}, op m = .ok a n → ∃ x : Model, n = x.synced ∧ x.env = m.env) : Settles op :=
  .of_synced ok fun h => .inl (harmless.of_error h)

theorem env_withDelta (m : Model) (row : Nat) (delta : RowDelta) :
    (m.withDelta row delta).env = m.env := by
  unfold withDelta
  split <;> rfl

theorem env_withRhs (m : Model) (row : Nat) (installed rhs : Float) :
    (m.withRhs row installed rhs).env = m.env := by
  unfold withRhs
  split <;> rfl

theorem settles_replaceExpression (range : Range) (expr : Expr) :
    Settles (replaceExpression range expr) := by
  refine .of_synced (fun h => ?_) replaceExpression_error
  obtain ⟨-, -, -, -, installed, -, rfl⟩ := replaceExpression_ok h
  refine ⟨_, rfl, ?_⟩
  rw [env_withRhs, env_withDelta]
  rfl

theorem settles_rowCoefficients (row : Ref) : Settles (rowCoefficients row) := by
  intro m idle
  cases result : rowCoefficients row m with
  | ok net n =>
    obtain ⟨-, rfl, -⟩ := rowCoefficients_ok result
    show m.flushed.Idle
    rw [idle.flushed]
    exact idle
  | error cause n =>
    rcases rowCoefficients_error result with rfl | rfl
    · exact idle
    · show m.flushed.Idle
      rw [idle.flushed]
      exact idle

theorem settles_objectiveCoefficients : Settles objectiveCoefficients := by
  intro m idle
  rw [objectiveCoefficients_eq]
  show m.flushed.Idle
  rw [idle.flushed]
  exact idle

theorem settles_setInt {param : IntParam} (other : param ≠ .updateMode) (value : Int) :
    Settles (setInt param value) := by
  intro m idle
  cases result : setInt param value m with
  | ok u n =>
    obtain ⟨p, set, rfl⟩ := setInt_ok result
    exact idle_synced (Params.immediateUpdates_of_mode (Params.updateMode_of_setInt set other)
      idle.immediate)
  | error cause n =>
    cases (harmless_setInt param value).of_error result
    exact idle

theorem settles_setReal (param : RealParam) (value : Float) : Settles (setReal param value) := by
  intro m idle
  cases result : setReal param value m with
  | ok u n =>
    obtain ⟨p, set, rfl⟩ := setReal_ok result
    exact ⟨Params.immediateUpdates_of_mode (Params.updateMode_of_setReal set) idle.immediate,
      idle.queue⟩
  | error cause n =>
    cases (harmless_setReal param value).of_error result
    exact idle

end Model

/-! ### Requests -/

namespace Request
open Model (Settles)

theorem settles_answer {α : Type} {op : ModelM α} (settles : Settles op) (f : α → Answer) :
    Settles (do return f (← op)) := by
  intro m idle
  rw [final_bind_pure]
  exact settles m idle

def setsUpdateMode : Request → Bool
  | setInt .updateMode _ => true
  | _ => false

theorem settles_carryOut (r : Request) (keeps : r.setsUpdateMode = false) :
    Settles r.carryOut := by
  cases reads : r.readsFlushed with
  | true => exact .of_keeps (r.keeps_carryOut reads)
  | false =>
    cases r with
    | setInt param value =>
      refine settles_answer (Model.settles_setInt (fun same => ?_) value) _
      subst same
      cases keeps
    | setReal param value => exact settles_answer (Model.settles_setReal param value) _
    | addVariables =>
      refine settles_answer (.of_harmless (Model.harmless_addVariables _ _ _ _) fun h => ?_) _
      exact ⟨_, (Model.addVariables_ok h).2.2, rfl⟩
    | addVariable =>
      refine settles_answer (.of_harmless (Model.harmless_addVariable _ _ _ _) fun h => ?_) _
      exact ⟨_, (Model.addVariable_ok h).2, rfl⟩
    | objectiveColumn => exact settles_answer (.of_keeps (Model.keeps_objectiveColumn _ _)) _
    | rowColumn => exact settles_answer (.of_keeps (Model.keeps_rowColumn _ _)) _
    | addWithColumn =>
      refine settles_answer (.of_harmless (Model.harmless_addWithColumn _ _ _ _ _) fun h => ?_) _
      exact ⟨_, (Model.addWithColumn_ok h).2.2.2, rfl⟩
    | convertDomain =>
      refine settles_answer (.of_harmless (Model.harmless_convertDomain _ _) fun h => ?_) _
      exact ⟨_, (Model.convertDomain_ok h).2.2.2, rfl⟩
    | setVariableName =>
      refine settles_answer (.of_harmless (Model.harmless_setVariableName _ _) fun h => ?_) _
      exact ⟨_, (Model.setVariableName_ok h).2.2, rfl⟩
    | handles => exact .of_keeps (.bind .get fun _ => .pure _)
    | counts => exact .of_keeps (.bind .get fun _ => .bind .get fun _ => .pure _)
    | addRange =>
      refine settles_answer (.of_harmless (Model.harmless_addRange _ _ _ _) fun h => ?_) _
      obtain ⟨plan, -, -, -, rfl⟩ := Model.addRange_ok_iff.1 h
      exact ⟨_, rfl, Model.env_withSlackOf _ _ _⟩
    | addRelation =>
      refine settles_answer (.of_harmless (Model.harmless_addRelation _ _ _ _) fun h => ?_) _
      exact ⟨_, (Model.addRelation_ok_iff.1 h).2.2, rfl⟩
    | replaceExpression => exact settles_answer (Model.settles_replaceExpression _ _) _
    | setRangeName =>
      refine settles_answer (.of_harmless (Model.harmless_setRangeName _ _) fun h => ?_) _
      exact ⟨_, (Model.setRangeName_ok_iff.1 h).2.2, rfl⟩
    | rowCoefficients => exact settles_answer (Model.settles_rowCoefficients _) _
    | addObjective =>
      refine settles_answer (.of_harmless (Model.harmless_addObjective _ _) fun h => ?_) _
      exact ⟨_, (Model.addObjective_ok h).2.2, rfl⟩
    | replaceObjective =>
      refine settles_answer (.of_harmless (Model.harmless_replaceObjective _ _) fun h => ?_) _
      exact ⟨_, (Model.replaceObjective_ok h).2.2.2, rfl⟩
    | setLinearCoefficient =>
      refine settles_answer (.of_harmless (Model.harmless_setLinearCoefficient _ _ _) fun h => ?_) _
      exact ⟨_, (Model.setLinearCoefficient_ok h).2.2.2, rfl⟩
    | objectiveCoefficients => exact settles_answer Model.settles_objectiveCoefficients _
    | _ => cases reads

end Request

/-! ### Calls -/

namespace Matrix

variable {m n : Matrix}

theorem queue_optimize (m : Matrix) (solver : Solver) (params : Params) (host : Host) :
    (m.optimize solver params host).2.1.queue = [] := by
  unfold optimize
  dsimp only
  cases solver.run (m.flush.body.problem m.flush.name) params host with
  | ok s host => exact queue_flush m
  | error cause host => exact queue_flush m

theorem queue_writeTo (disk : Disk) (path : String) (empty : m.queue = []) :
    (final (m.writeTo disk path)).queue = [] := by
  cases result : m.writeTo disk path with
  | ok d n =>
    obtain ⟨-, rfl, -⟩ := writeTo_ok_iff.1 result
    exact queue_flush m
  | error cause n =>
    rcases writeTo_error result with rfl | rfl
    · exact empty
    · exact queue_flush m

theorem queue_readFrom {disk : Disk} {path : String} (h : readFrom disk path = .ok m) :
    m.queue = [] := by
  obtain ⟨-, _, _, -, -, rfl⟩ := readFrom_ok_iff.1 h
  rfl

end Matrix

namespace Call

variable {s : Session}

def setsUpdateMode : Call → Bool
  | request r => r.setsUpdateMode
  | _ => false

/-- With immediate updates a call leaves nothing queued, whether it succeeds or fails. -/
theorem idle_run (call : Call) (keeps : call.setsUpdateMode = false) (idle : s.model.Idle) :
    (call.run s).2.model.Idle := by
  cases call with
  | request r =>
    have ends := r.settles_carryOut keeps _ idle
    cases result : r.carryOut s.model with
    | ok a m =>
      rw [run_ok result]
      rw [result] at ends
      exact ends
    | error cause m =>
      rw [run_error result]
      rw [result] at ends
      exact ends
  | solve installed => exact ⟨idle.immediate, Matrix.queue_optimize _ _ _ _⟩
  | exportModel path =>
    have queue := Matrix.queue_writeTo s.workspace.disk path idle.queue
    unfold run Workspace.exportModel Model.onMatrix
    dsimp only
    cases result : Matrix.writeTo s.workspace.disk path s.model.matrix with
    | ok d x =>
      rw [result] at queue
      exact ⟨idle.immediate, queue⟩
    | error cause x =>
      rw [result] at queue
      exact ⟨idle.immediate, queue⟩
  | importModel path =>
    unfold run Workspace.importModel
    dsimp only
    cases read : Matrix.readFrom s.workspace.disk path with
    | error cause => exact idle
    | ok x => exact ⟨idle.immediate, Matrix.queue_readFrom read⟩
  | others disk drawn => exact idle

end Call

namespace Session

variable {s lazy immediate : Session} {calls : List Call}

/-! ### Runs -/

def withUpdateMode (s : Session) (mode : Int) : Session :=
  { s with model := { s.model with
      env := { s.model.env with params := { s.model.env.params with updateMode := mode } } } }

/-- No call of the list sets the update mode, and none reads flushed content while edits are
queued. -/
def Admits : List Call → Session → Prop
  | [], _ => True
  | call :: calls, s =>
    call.setsUpdateMode = false ∧
      (call.readsFlushed = true → s.model.matrix.isPending = false) ∧
      Admits calls (call.run s).2

/-- A call has had the same outcome with lazy as with immediate updates: the same answer, the same
files, and matrices that are the same once the lazy one is flushed.  The other has nothing queued. -/
structure SameOutcome (lazy immediate : Answer × Session) : Prop where
  answer : lazy.1 = immediate.1
  workspace : lazy.2.workspace = immediate.2.workspace
  id : lazy.2.model.id = immediate.2.model.id
  handles : lazy.2.model.handles = immediate.2.model.handles
  generation : lazy.2.model.generation = immediate.2.model.generation
  matrix : lazy.2.model.matrix.flush = immediate.2.model.matrix.flush
  settled : immediate.2.model.matrix.isPending = false

theorem isPending_eq_false_iff {m : Matrix} : m.isPending = false ↔ m.queue = [] := by
  unfold Matrix.isPending
  rw [Bool.not_eq_false', List.isEmpty_iff]

/-- The runs of two sessions that agree, where the second is idle, have the same outcome after each
call. -/
theorem sameOutcome_trace (agree : lazy.Agrees immediate) (idle : immediate.model.Idle)
    (admits : lazy.Admits calls) :
    List.Forall₂ SameOutcome (lazy.trace calls) (immediate.trace calls) := by
  induction calls generalizing lazy immediate with
  | nil => exact .nil
  | cons call calls ih =>
    obtain ⟨keeps, settled, rest⟩ := admits
    have blind (reads : call.readsFlushed = true) : lazy.model.matrix = immediate.model.matrix :=
      agree.model.matrix.eq (isPending_eq_false_iff.1 (settled reads)) idle.queue
    obtain ⟨answer, after⟩ := call.run_agrees agree blind
    have idleAfter := call.idle_run keeps idle
    refine .cons ⟨answer, after.workspace, after.model.id, after.model.handles,
      after.model.generation, after.model.matrix, ?_⟩ (ih after idleAfter rest)
    exact isPending_eq_false_iff.2 idleAfter.queue

/-- Lazy and immediate updates are equivalent: from equal states without queued edits, every call
has the same outcome in both update modes. -/
theorem lazy_like_immediate (settled : s.model.matrix.isPending = false)
    (admits : (s.withUpdateMode 0).Admits calls) :
    List.Forall₂ SameOutcome ((s.withUpdateMode 0).trace calls)
      ((s.withUpdateMode 1).trace calls) := by
  refine sameOutcome_trace ⟨rfl, rfl, rfl, rfl, rfl, rfl, rfl⟩ ?_ admits
  exact ⟨rfl, isPending_eq_false_iff.1 settled⟩

def blank : Session := ⟨⟨.empty, 1⟩, .create 0 "test" ⟨.none, .default⟩⟩

/-- A two-sided range on one variable whose expression is replaced, an objective, a refused range, a
status that is read after a flush, and a file. -/
def rangeCalls : List Call :=
  let x : Variable := ⟨⟨0, 0⟩, 0, 4, .integer, some "x"⟩
  let slack : Variable := ⟨⟨0, 1⟩, 0, 2, .continuous, some "r_slack"⟩
  let range : Range := ⟨⟨0, 0⟩, 1, 3, some "r", .ofVariable x, some slack⟩
  [.request (.addVariable 0 4 .integer (some "x")),
    .request (.addRange 1 (.ofVariable x) 3 (some "r")),
    .request (.addObjective (.term x 2) .maximize),
    .request (.replaceExpression range (.term x 5)),
    .request (.addRange (-Number.infinity) .zero Number.infinity none),
    .request .objectiveCoefficients,
    .request .status,
    .exportModel "m.lp"]

theorem lazy_like_immediate_rangeCalls :
    blank.model.matrix.isPending = false ∧ (blank.withUpdateMode 0).Admits rangeCalls ∧
      List.Forall₂ SameOutcome ((blank.withUpdateMode 0).trace rangeCalls)
        ((blank.withUpdateMode 1).trace rangeCalls) := by
  have flushed (s : Session) :
      ((Call.request .objectiveCoefficients).run s).2.model.matrix.isPending = false :=
    isPending_eq_false_iff.2 (Matrix.queue_flush s.model.matrix)
  have admits : (blank.withUpdateMode 0).Admits rangeCalls :=
    ⟨rfl, nofun, rfl, nofun, rfl, nofun, rfl, nofun, rfl, nofun, rfl, nofun, rfl,
      fun _ => flushed _, rfl, nofun, trivial⟩
  exact ⟨rfl, admits, lazy_like_immediate rfl admits⟩

end Session

end LinProg
