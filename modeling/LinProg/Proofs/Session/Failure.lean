import Mathlib
import LinProg.Proofs.Session.Growth

/-!
# Calls that fail

A call that fails leaves its session as it was.  For most calls all checks come before the first
change.  Replacing the expression of a row and reading its coefficients flush first and look the row
up after: in a sound model nothing can fail from the flush on.  A handle that a call changes in place
is changed once nothing can fail any more.
-/

namespace LinProg
open Operation

namespace Model

variable {m n : Model} {cause : ModelError} {range : Range} {expr : Expr} {ref : Ref}

theorem row_present (sound : m.matrix.Sound) (owned : m.ownsRow ref = true) :
    ∃ r, m.matrix.flush.body.rows[ref.index]? = some r := by
  have within := row_within owned
  rw [← sound.rowCount] at within
  exact ⟨_, List.getElem?_eq_getElem within⟩

theorem applyDelta_eq {row : Nat} {delta : RowDelta} (within : row < m.matrix.rowCount)
    (columns : ∀ t ∈ delta.target.toList, t.1 < m.matrix.columnCount) :
    applyDelta row delta m = .ok ⟨⟩ (m.withDelta row delta) := by
  unfold applyDelta withDelta
  split
  · rfl
  · unfold onMatrix
    rw [changeCoefficients_delta within columns]
    rfl

theorem replaceExpression_succeeds (sound : m.matrix.Sound) (owned : m.ownsRow range.ref = true)
    (mine : m.ownsExpr expr) (slack : ∀ v ∈ range.slack, m.ownsColumn v.ref = true) :
    ∃ n, replaceExpression range expr m = .ok { range with expr } n := by
  obtain ⟨installed, present⟩ := row_present sound owned
  have within : range.ref.index < m.flushed.matrix.rowCount := by
    show _ < m.matrix.flush.rowCount
    rw [Matrix.rowCount_flush]
    exact row_within owned
  have columns := delta_within sound present mine slack
  rw [← Matrix.columnCount_flush] at columns
  unfold replaceExpression
  simp only [bind_ok_iff, checkRow_ok_iff, desiredEntries_ok_iff, onMatrix_flushM_ok_iff, get_ok_iff,
    lookUp_ok_iff, row_ok_iff, sync_ok_iff, pure_ok_iff]
  refine ⟨_, range.ref.index, m, ⟨rfl, rfl, owned⟩, _, m, ⟨rfl, rfl, mine, slack⟩, ⟨⟩, m.flushed,
    rfl, _, _, ⟨rfl, rfl⟩, _, _, ⟨rfl, installed, present, rfl⟩, ⟨⟩, _,
    applyDelta_eq within columns, ⟨⟩, _, updateRhs_withDelta present within, ⟨⟩, _, rfl, trivial, rfl⟩

theorem replaceExpression_failed (sound : m.matrix.Sound)
    (h : replaceExpression range expr m = .error cause n) : n = m := by
  have failed := h
  unfold replaceExpression at h
  rcases bind_error_iff.1 h with one | ⟨_, _, checked, h⟩
  · exact (keeps_checkRow _).harmless.of_error one
  obtain ⟨rfl, rfl, owned⟩ := checkRow_ok_iff.1 checked
  rcases bind_error_iff.1 h with two | ⟨_, _, wanted, h⟩
  · exact (keeps_desiredEntries range expr).harmless.of_error two
  obtain ⟨rfl, -, mine, slack⟩ := desiredEntries_ok_iff.1 wanted
  obtain ⟨_, succeeds⟩ := replaceExpression_succeeds sound owned mine slack
  rw [succeeds] at failed
  cases failed

theorem rowCoefficients_succeeds (sound : m.matrix.Sound) (owned : m.ownsRow ref = true) :
    ∃ net, rowCoefficients ref m = .ok net m.flushed := by
  obtain ⟨r, present⟩ := row_present sound owned
  unfold rowCoefficients
  simp only [bind_ok_iff, checkRow_ok_iff, onMatrix_flushM_ok_iff, get_ok_iff, lookUp_ok_iff,
    row_ok_iff, pure_ok_iff]
  exact ⟨netCoefficients r.entries, ref.index, m, ⟨rfl, rfl, owned⟩, ⟨⟩, m.flushed, rfl, _, _,
    ⟨rfl, rfl⟩, _, _, ⟨rfl, r, present, rfl⟩, rfl, rfl⟩

theorem rowCoefficients_failed (sound : m.matrix.Sound)
    (h : rowCoefficients ref m = .error cause n) : n = m := by
  have failed := h
  unfold rowCoefficients at h
  rcases bind_error_iff.1 h with one | ⟨_, _, checked, h⟩
  · exact (keeps_checkRow _).harmless.of_error one
  obtain ⟨rfl, rfl, owned⟩ := checkRow_ok_iff.1 checked
  obtain ⟨_, succeeds⟩ := rowCoefficients_succeeds sound owned
  rw [succeeds] at failed
  cases failed

end Model

/-! ### Requests -/

namespace Request

theorem harmless_answer {α : Type} {op : ModelM α} (harmless : Harmless op) (f : α → Answer) :
    Harmless (do return f (← op)) := harmless.bind_succeeds fun _ => .pure _

theorem failed_answer {α : Type} {op : ModelM α} {f : α → Answer} {m n : Model}
    {cause : ModelError} (failed : ∀ n, op m = .error cause n → n = m)
    (h : (do return f (← op) : ModelM Answer) m = .error cause n) : n = m := by
  rcases bind_error_iff.1 h with one | ⟨_, _, -, h⟩
  · exact failed n one
  · cases h

/-- A request that fails leaves a sound model as it was. -/
theorem failed_unchanged (r : Request) {m n : Model} {cause : ModelError} (sound : m.matrix.Sound)
    (h : r.carryOut m = .error cause n) : n = m := by
  cases reads : r.readsFlushed with
  | true => exact (r.keeps_carryOut reads).harmless.of_error h
  | false =>
    cases r with
    | replaceExpression =>
      exact failed_answer (fun _ => Model.replaceExpression_failed sound) h
    | rowCoefficients => exact failed_answer (fun _ => Model.rowCoefficients_failed sound) h
    | setInt => exact (harmless_answer (Model.harmless_setInt _ _) _).of_error h
    | setReal => exact (harmless_answer (Model.harmless_setReal _ _) _).of_error h
    | addVariables => exact (harmless_answer (Model.harmless_addVariables _ _ _ _) _).of_error h
    | addVariable => exact (harmless_answer (Model.harmless_addVariable _ _ _ _) _).of_error h
    | objectiveColumn =>
      exact (harmless_answer (Model.keeps_objectiveColumn _ _).harmless _).of_error h
    | rowColumn => exact (harmless_answer (Model.keeps_rowColumn _ _).harmless _).of_error h
    | addWithColumn =>
      exact (harmless_answer (Model.harmless_addWithColumn _ _ _ _ _) _).of_error h
    | convertDomain => exact (harmless_answer (Model.harmless_convertDomain _ _) _).of_error h
    | setVariableName => exact (harmless_answer (Model.harmless_setVariableName _ _) _).of_error h
    | addRange => exact (harmless_answer (Model.harmless_addRange _ _ _ _) _).of_error h
    | addRelation => exact (harmless_answer (Model.harmless_addRelation _ _ _ _) _).of_error h
    | setRangeName => exact (harmless_answer (Model.harmless_setRangeName _ _) _).of_error h
    | addObjective => exact (harmless_answer (Model.harmless_addObjective _ _) _).of_error h
    | replaceObjective =>
      exact (harmless_answer (Model.harmless_replaceObjective _ _) _).of_error h
    | setLinearCoefficient =>
      exact (harmless_answer (Model.harmless_setLinearCoefficient _ _ _) _).of_error h
    | handles => cases h
    | counts => cases h
    | objectiveCoefficients => cases h
    | _ => cases reads

end Request

/-! ### Handles that are changed in place -/

/-- An operation on a model and on a handle that it changes in place. -/
abbrev InPlaceM (η : Type) := EStateM ModelError (Model × η)

namespace InPlace

variable {η α : Type}

def onModel (op : ModelM α) : InPlaceM η α := fun (m, h) =>
  match op m with
  | .ok a n => .ok a (n, h)
  | .error cause n => .error cause (n, h)

/-- A first part on the model, then the change of the handle, then the rest on the model. -/
def replacing (first : η → ModelM α) (new : η → η) (rest : η → α → ModelM Unit) : InPlaceM η Unit := do
  let h := (← get).2
  let a ← onModel (first h)
  modify fun s => (s.1, new h)
  onModel (rest h a)

/-- Puts the handle that an operation returns in the place of the old one. -/
def assigning (op : η → ModelM η) : InPlaceM η Unit := fun (m, h) =>
  match op h m with
  | .ok new n => .ok ⟨⟩ (n, new)
  | .error cause n => .error cause (n, h)

section

variable {m n : Model} {h new : η} {a : α} {cause : ModelError} {op : ModelM α} {f : η → ModelM η}

theorem onModel_ok (done : op m = .ok a n) : onModel op (m, h) = .ok a (n, h) := by
  simp only [onModel, done]

theorem onModel_error (failed : op m = .error cause n) :
    onModel op (m, h) = .error cause (n, h) := by
  simp only [onModel, failed]

theorem assigning_ok (done : f h m = .ok new n) : assigning f (m, h) = .ok ⟨⟩ (n, new) := by
  simp only [assigning, done]

theorem assigning_error (failed : f h m = .error cause n) :
    assigning f (m, h) = .error cause (n, h) := by
  simp only [assigning, failed]

end

/-- If nothing fails once the handle is changed, the changed handle may as well be returned. -/
theorem replacing_eq {first : η → ModelM α} {new : η → η} {rest : η → α → ModelM Unit}
    (settled : ∀ h a, Succeeds (rest h a)) :
    replacing first new rest = assigning fun h => do
      let a ← first h
      rest h a
      return new h := by
  funext ⟨m, h⟩
  cases start : first h m with
  | error cause n =>
    have left : replacing first new rest (m, h) = .error cause (n, h) :=
      bind_error_iff.2 (.inr ⟨_, _, rfl, bind_error_iff.2 (.inl (onModel_error start))⟩)
    exact left.trans (assigning_error (bind_error_iff.2 (.inl start))).symm
  | ok a n =>
    cases done : rest h a n with
    | error cause k => exact absurd done (settled h a _ _ _)
    | ok u k =>
      have left : replacing first new rest (m, h) = .ok u (k, new h) :=
        bind_ok_iff.2 ⟨_, _, rfl, bind_ok_iff.2 ⟨_, _, onModel_ok start,
          bind_ok_iff.2 ⟨_, _, rfl, onModel_ok done⟩⟩⟩
      have right : (do let a ← first h; rest h a; return new h : ModelM η) m = .ok (new h) k :=
        bind_ok_iff.2 ⟨_, _, start, bind_ok_iff.2 ⟨_, _, done, rfl⟩⟩
      exact left.trans (assigning_ok right).symm

end InPlace

/-- What can be asked of a model with a handle that is changed in place. -/
inductive HandleChange : Type → Type where
  | convertDomain (domain : Domain) : HandleChange Variable
  | setVariableName (name : String) : HandleChange Variable
  | replaceExpression (expr : Expr) : HandleChange Range
  | setRangeName (name : String) : HandleChange Range
  | replaceObjective (expr : Expr) : HandleChange Objective
  | setLinearCoefficient (v : Variable) (c : Float) : HandleChange Objective

namespace HandleChange
open InPlace Model

variable {η : Type}

def returning : HandleChange η → η → ModelM η
  | convertDomain domain => (Model.convertDomain · domain)
  | setVariableName name => (Model.setVariableName · name)
  | replaceExpression expr => (Model.replaceExpression · expr)
  | setRangeName name => (Model.setRangeName · name)
  | replaceObjective expr => (Model.replaceObjective · expr)
  | setLinearCoefficient v c => (Model.setLinearCoefficient · v c)

/-- Carries out the change.  The model is flushed last, if at all, and the listed handle of a variable
changes after the given one. -/
def carryOut : HandleChange η → InPlaceM η Unit
  | convertDomain domain => replacing
    (fun v => do
      let index ← checkVariable v.ref
      unless domain.acceptsBounds v.lower v.upper do
        throw (.incompatibleDomain index v.lower v.upper domain)
      onMatrix (Matrix.setDomain index domain)
      return index)
    (fun v => { v with domain })
    (fun _ index => do
      modifyListed index fun listed => { listed with domain }
      sync)
  | setVariableName name => replacing
    (fun v => do
      let index ← checkVariable v.ref
      onMatrix (Matrix.setColumnName index name)
      return index)
    (fun v => { v with name := some name })
    (fun _ index => do
      modifyListed index fun listed => { listed with name := some name }
      sync)
  | replaceExpression expr => replacing
    (fun range => do
      let row ← checkRow range.ref
      let desired ← desiredEntries range expr
      onMatrix Matrix.flushM
      let m ← get
      let installed ← lookUp (m.matrix.row row)
      applyDelta row (.between installed desired)
      updateRhs row (range.plan.rhs expr.constant))
    (fun range => { range with expr })
    (fun _ _ => sync)
  | setRangeName name => replacing
    (fun range => do
      let row ← checkRow range.ref
      onMatrix (Matrix.setRowName row name))
    (fun range => { range with name := some name })
    (fun _ _ => sync)
  | replaceObjective expr => replacing
    (fun objective => do
      checkObjective objective.model objective.generation
      let terms ← exprTerms expr
      onMatrix (Matrix.setObjective terms expr.constant objective.sense))
    (fun objective => { objective with expr })
    (fun _ _ => sync)
  | setLinearCoefficient v c => replacing
    (fun objective => do
      checkObjective objective.model objective.generation
      let index ← checkVariable v.ref
      onMatrix (Matrix.setObjectiveCoefficient index c))
    (fun objective => { objective with expr := objective.expr.setCoefficient v c })
    (fun _ _ => sync)

theorem succeeds_modifyListed (index : Nat) (f : Variable → Variable) :
    Succeeds (modifyListed index f) := .modify _

/-- A change in place ends as the operation that returns the changed handle. -/
theorem carryOut_eq (change : HandleChange η) : change.carryOut = assigning change.returning := by
  cases change with
  | convertDomain domain =>
    simp only [carryOut, returning]
    rw [replacing_eq fun _ _ => .bind (succeeds_modifyListed _ _) fun _ => succeeds_sync]
    congr 1
    funext v
    simp only [Model.convertDomain, bind_assoc]
    congr 1
    funext index
    split
    · simp only [bind_assoc, pure_bind]
    · rfl
  | setVariableName name =>
    simp only [carryOut, returning]
    rw [replacing_eq fun _ _ => .bind (succeeds_modifyListed _ _) fun _ => succeeds_sync]
    simp only [Model.setVariableName, bind_assoc, pure_bind]
  | replaceExpression expr =>
    simp only [carryOut, returning]
    rw [replacing_eq fun _ _ => succeeds_sync]
    simp only [Model.replaceExpression, bind_assoc]
  | setRangeName name =>
    simp only [carryOut, returning]
    rw [replacing_eq fun _ _ => succeeds_sync]
    simp only [Model.setRangeName, bind_assoc]
  | replaceObjective expr =>
    simp only [carryOut, returning]
    rw [replacing_eq fun _ _ => succeeds_sync]
    simp only [Model.replaceObjective, bind_assoc]
  | setLinearCoefficient v c =>
    simp only [carryOut, returning]
    rw [replacing_eq fun _ _ => succeeds_sync]
    simp only [Model.setLinearCoefficient, bind_assoc]

variable {m n : Model} {h : η} {cause : ModelError}

theorem returning_failed (change : HandleChange η) (sound : m.matrix.Sound)
    (failed : change.returning h m = .error cause n) : n = m := by
  -- the request that asks for the same change fails as well
  cases change with
  | convertDomain domain =>
    exact Request.failed_unchanged (.convertDomain h domain) sound (bind_error_iff.2 (.inl failed))
  | setVariableName name =>
    exact Request.failed_unchanged (.setVariableName h name) sound (bind_error_iff.2 (.inl failed))
  | replaceExpression expr =>
    exact Request.failed_unchanged (.replaceExpression h expr) sound
      (bind_error_iff.2 (.inl failed))
  | setRangeName name =>
    exact Request.failed_unchanged (.setRangeName h name) sound (bind_error_iff.2 (.inl failed))
  | replaceObjective expr =>
    exact Request.failed_unchanged (.replaceObjective h expr) sound
      (bind_error_iff.2 (.inl failed))
  | setLinearCoefficient v c =>
    exact Request.failed_unchanged (.setLinearCoefficient h v c) sound
      (bind_error_iff.2 (.inl failed))

theorem failed_unchanged (change : HandleChange η) (sound : m.matrix.Sound) {t : Model × η}
    (failed : change.carryOut (m, h) = .error cause t) : t = (m, h) := by
  rw [carryOut_eq] at failed
  cases result : change.returning h m with
  | ok new n =>
    rw [assigning_ok result] at failed
    cases failed
  | error cause n =>
    rw [assigning_error result] at failed
    cases failed
    rw [change.returning_failed sound result]

end HandleChange

/-! ### Sessions -/

theorem Call.failed_import {path : String} {s t : Session} {cause : ModelError}
    (failed : (importModel path).run s = (.failed cause, t)) : t = s := by
  unfold run Workspace.importModel at failed
  dsimp only at failed
  cases read : Matrix.readFrom s.workspace.disk path with
  | error e =>
    rw [read] at failed
    cases failed
    rfl
  | ok x =>
    rw [read] at failed
    cases failed

namespace Session

/-- Whatever calls lead to a model: a request or an import that fails leaves it as it was, and a change
in place that fails leaves its handle as well. -/
theorem failure_changes_nothing (w : Workspace) (name : String) (env : Environment)
    (calls : List Call) :
    let s := (create w name env).after calls
    (∀ (r : Request) (cause : ModelError) (n : Model),
        r.carryOut s.model = .error cause n → n = s.model) ∧
      (∀ (path : String) (cause : ModelError) (t : Session),
        (Call.importModel path).run s = (.failed cause, t) → t = s) ∧
      ∀ (η : Type) (change : HandleChange η) (h : η) (cause : ModelError) (t : Model × η),
        change.carryOut (s.model, h) = .error cause t → t = (s.model, h) := by
  intro s
  have sound : s.model.matrix.Sound := (sound_after calls (sound_create w name env)).matrix
  refine ⟨?_, ?_, ?_⟩
  · intro r cause n failed
    exact r.failed_unchanged sound failed
  · intro path cause t failed
    exact Call.failed_import failed
  · intro η change h cause t failed
    exact change.failed_unchanged sound failed

/-- A variable and a range are added, and wait in the queue. -/
def waitingCalls : List Call :=
  let x : Variable := ⟨⟨0, 0⟩, 0, 4, .integer, some "x"⟩
  [.request (.setInt .updateMode 0), .request (.addVariable 0 4 .integer (some "x")),
    .request (.addRange 1 (.ofVariable x) 3 (some "r"))]

theorem failure_changes_nothing_waiting :
    let s := (create .empty "test" ⟨.none, .default⟩).after waitingCalls
    let foreign : Variable := ⟨⟨1, 0⟩, 0, 1, .continuous, none⟩
    let range : Range := ⟨⟨0, 0⟩, 1, 3, some "r", .zero, some ⟨⟨0, 1⟩, 0, 2, .continuous, none⟩⟩
    s.model.matrix.queue.length = 3 ∧
      (∃ cause, Request.carryOut (.addRange 1 (.ofVariable foreign) 3 none) s.model =
        .error cause s.model) ∧
      (∃ cause, (Call.importModel "model.txt").run s = (.failed cause, s)) ∧
      ∃ cause, (HandleChange.replaceExpression (.ofVariable foreign)).carryOut (s.model, range) =
        .error cause (s.model, range) := by
  intro s foreign range
  obtain ⟨requests, imports, changes⟩ :=
    failure_changes_nothing .empty "test" ⟨.none, .default⟩ waitingCalls
  have refused : ¬ s.model.ownsExpr (.ofVariable foreign) := by
    intro owned
    have listed : foreign.ref ∈ (Expr.ofVariable foreign).coefficients.map (·.1) := by
      decide +kernel
    obtain ⟨t, member, same⟩ := List.mem_map.1 listed
    have mine : s.model.ownsColumn foreign.ref = true := same ▸ owned t member
    have other : s.model.ownsColumn foreign.ref = false := by decide +kernel
    rw [other] at mine
    cases mine
  refine ⟨by decide +kernel, ?_, ?_, ?_⟩
  · cases result : Request.carryOut (.addRange 1 (.ofVariable foreign) 3 none) s.model with
    | ok a n =>
      obtain ⟨_, _, added, -⟩ := bind_ok_iff.1 result
      obtain ⟨_, -, owned, -, -⟩ := Model.addRange_ok_iff.1 added
      exact absurd owned refused
    | error cause n =>
      rw [requests _ _ _ result]
      exact ⟨cause, rfl⟩
  · cases result : (Call.importModel "model.txt").run s with
    | mk a t =>
      have format : Matrix.readFrom s.workspace.disk "model.txt" =
          .error (.unsupportedFormat "model.txt") := by
        unfold Matrix.readFrom
        rw [if_neg (by decide +kernel)]
        rfl
      have failed : a = .failed (.matrix (.unsupportedFormat "model.txt")) := by
        have first := congrArg Prod.fst result
        unfold Call.run Workspace.importModel at first
        dsimp only at first
        rw [format] at first
        exact first.symm
      rw [failed] at result ⊢
      rw [imports _ _ _ result]
      exact ⟨_, rfl⟩
  · cases result : Model.replaceExpression range (.ofVariable foreign) s.model with
    | ok k n =>
      obtain ⟨-, owned, -⟩ := Model.replaceExpression_ok result
      exact absurd owned refused
    | error cause n =>
      have failed : (HandleChange.replaceExpression (.ofVariable foreign)).carryOut
          (s.model, range) = .error cause (n, range) := by
        rw [HandleChange.carryOut_eq]
        exact InPlace.assigning_error result
      have same := changes _ _ _ _ _ failed
      rw [same] at failed
      exact ⟨cause, failed⟩

end Session

end LinProg
