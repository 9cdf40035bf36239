import Mathlib
import LinProg.Model.Basic
import LinProg.Proofs.Matrix.Operation

/-!
# What operations do to a model

An operation that succeeds has queued its edits, as `edited` says, and then flushed them if updates
are immediate, as `synced` says.  One that fails has done nothing, but for a flush.
-/

namespace LinProg

theorem Ref.eq_of {a b : Ref} (model : a.model = b.model) (index : a.index = b.index) : a = b := by
  cases a
  cases b
  cases model
  cases index
  rfl

namespace Model
open Operation

variable {m n : Model}

/-- The model with one more edit in the queue of its matrix, which adds some columns and rows. -/
def edited (m : Model) (e : Edit) (columns rows : Nat) : Model :=
  { m with matrix := m.matrix.grown e columns rows }

def synced (m : Model) : Model :=
  if m.env.params.immediateUpdates then { m with matrix := m.matrix.flush } else m

def flushed (m : Model) : Model := { m with matrix := m.matrix.flush }

theorem sync_ok_iff {u : Unit} : sync m = .ok u n ↔ n = m.synced := modify_ok_iff.trans eq_comm

theorem succeeds_sync : Succeeds sync := .modify _

@[simp] theorem id_synced (m : Model) : m.synced.id = m.id := by
  unfold synced
  split <;> rfl

@[simp] theorem env_synced (m : Model) : m.synced.env = m.env := by
  unfold synced
  split <;> rfl

@[simp] theorem generation_synced (m : Model) : m.synced.generation = m.generation := by
  unfold synced
  split <;> rfl

@[simp] theorem handles_synced (m : Model) : m.synced.handles = m.handles := by
  unfold synced
  split <;> rfl

@[simp] theorem columnCount_synced (m : Model) :
    m.synced.matrix.columnCount = m.matrix.columnCount := by
  unfold synced
  split
  · exact Matrix.columnCount_flush m.matrix
  · rfl

@[simp] theorem rowCount_synced (m : Model) : m.synced.matrix.rowCount = m.matrix.rowCount := by
  unfold synced
  split
  · exact Matrix.rowCount_flush m.matrix
  · rfl

/-! ### Parts of operations -/

section Parts

variable {α : Type} {op : MatrixM α} {a : α}

theorem onMatrix_ok_iff {accepts : Matrix → Prop} {value : Matrix → α} {e : Edit}
    {columns rows : Nat} (queues : Matrix.Queues op accepts value e columns rows) :
    onMatrix op m = .ok a n ↔
      accepts m.matrix ∧ a = value m.matrix ∧ n = m.edited e columns rows := by
  unfold onMatrix
  cases result : op m.matrix with
  | ok b x =>
    have passes := queues.ok_iff.1 result
    constructor
    · intro h
      cases h
      exact ⟨passes.1, passes.2.1, passes.2.2 ▸ rfl⟩
    · rintro ⟨-, rfl, rfl⟩
      rw [passes.2.1, passes.2.2]
      rfl
  | error cause x =>
    refine iff_of_false (fun h => nomatch h) fun h => ?_
    have passes := queues.ok_iff.2 ⟨h.1, rfl, rfl⟩
    rw [passes] at result
    cases result

theorem harmless_onMatrix (harmless : Harmless op) : Harmless (onMatrix op) := by
  intro s e t h
  unfold onMatrix at h
  cases result : op s.matrix with
  | ok b x =>
    rw [result] at h
    cases h
  | error cause x =>
    rw [result] at h
    cases h
    rw [harmless.of_error result]

theorem onMatrix_flushM_ok_iff {u : Unit} :
    onMatrix Matrix.flushM m = .ok u n ↔ n = { m with matrix := m.matrix.flush } := by
  constructor
  · intro h
    cases h
    rfl
  · rintro rfl
    rfl

theorem lookUp_ok_iff {result : Except MatrixError α} :
    lookUp result m = .ok a n ↔ m = n ∧ result = .ok a := by
  cases result with
  | ok b =>
    refine pure_ok_iff.trans ⟨?_, ?_⟩
    · rintro ⟨rfl, rfl⟩
      exact ⟨rfl, rfl⟩
    · rintro ⟨rfl, same⟩
      cases same
      exact ⟨rfl, rfl⟩
  | error cause => exact iff_of_false (fun h => nomatch h) fun h => nomatch h.2

theorem keeps_lookUp (result : Except MatrixError α) : Keeps (lookUp result) := by
  intro s
  cases result <;> rfl

end Parts

/-! ### Parameters -/

section Parameters

variable {u : Unit}

theorem setInt_ok {param : IntParam} {value : Int} (h : setInt param value m = .ok u n) :
    ∃ params, m.env.params.setInt param value = .ok params ∧
      n = Model.synced { m with env := { m.env with params } } := by
  unfold setInt at h
  obtain ⟨_, _, read, h⟩ := bind_ok_iff.1 h
  obtain ⟨rfl, rfl⟩ := get_ok_iff.1 read
  cases result : m.env.params.setInt param value with
  | ok params =>
    rw [result] at h
    obtain ⟨_, _, installed, h⟩ := bind_ok_iff.1 h
    cases set_ok_iff.1 installed
    exact ⟨params, rfl, sync_ok_iff.1 h⟩
  | error cause =>
    rw [result] at h
    cases h

theorem harmless_setInt (param : IntParam) (value : Int) : Harmless (setInt param value) := by
  refine Keeps.get.bind_harmless fun m => ?_
  cases m.env.params.setInt param value with
  | ok params => exact Succeeds.harmless (.bind (.set _) fun _ => succeeds_sync)
  | error cause => exact (Keeps.throw _).harmless

theorem setReal_ok {param : RealParam} {value : Float} (h : setReal param value m = .ok u n) :
    ∃ params, m.env.params.setReal param value = .ok params ∧
      n = { m with env := { m.env with params } } := by
  unfold setReal at h
  obtain ⟨_, _, read, h⟩ := bind_ok_iff.1 h
  obtain ⟨rfl, rfl⟩ := get_ok_iff.1 read
  cases result : m.env.params.setReal param value with
  | ok params =>
    rw [result] at h
    exact ⟨params, rfl, (set_ok_iff.1 h).symm⟩
  | error cause =>
    rw [result] at h
    cases h

theorem harmless_setReal (param : RealParam) (value : Float) : Harmless (setReal param value) := by
  refine Keeps.get.bind_harmless fun m => ?_
  cases m.env.params.setReal param value with
  | ok params => exact (Succeeds.set _).harmless
  | error cause => exact (Keeps.throw _).harmless

end Parameters

/-! ### Checks -/

section Checks

variable {ref : Ref} {index model generation : Nat} {u : Unit} {e : Expr}
  {terms : List (Nat × Float)}

theorem keeps_checkVariable (ref : Ref) : Keeps (checkVariable ref) := by
  refine .bind .get fun m => ?_
  split
  · exact .pure _
  · exact .throw _

theorem keeps_checkRow (ref : Ref) : Keeps (checkRow ref) := by
  refine .bind .get fun m => ?_
  split
  · exact .pure _
  · exact .throw _

theorem keeps_checkObjective (model generation : Nat) : Keeps (checkObjective model generation) :=
  .bind .get fun _ => .guard _

theorem checkVariable_ok_iff :
    checkVariable ref m = .ok index n ↔ m = n ∧ index = ref.index ∧ m.ownsColumn ref = true := by
  unfold checkVariable
  simp only [bind_ok_iff, get_ok_iff]
  constructor
  · rintro ⟨_, _, ⟨rfl, rfl⟩, h⟩
    split at h
    · rename_i owned
      cases h
      exact ⟨rfl, rfl, owned⟩
    · cases h
  · rintro ⟨rfl, rfl, owned⟩
    refine ⟨m, m, ⟨rfl, rfl⟩, ?_⟩
    rw [if_pos owned]
    rfl

theorem checkRow_ok_iff :
    checkRow ref m = .ok index n ↔ m = n ∧ index = ref.index ∧ m.ownsRow ref = true := by
  unfold checkRow
  simp only [bind_ok_iff, get_ok_iff]
  constructor
  · rintro ⟨_, _, ⟨rfl, rfl⟩, h⟩
    split at h
    · rename_i owned
      cases h
      exact ⟨rfl, rfl, owned⟩
    · cases h
  · rintro ⟨rfl, rfl, owned⟩
    refine ⟨m, m, ⟨rfl, rfl⟩, ?_⟩
    rw [if_pos owned]
    rfl

theorem checkObjective_ok_iff :
    checkObjective model generation m = .ok u n ↔
      m = n ∧ m.ownsObjective model generation = true := by
  unfold checkObjective
  simp only [bind_ok_iff, get_ok_iff, guard_ok_iff]
  constructor
  · rintro ⟨_, _, ⟨rfl, rfl⟩, same, owned⟩
    exact ⟨same, owned⟩
  · rintro ⟨same, owned⟩
    exact ⟨m, m, ⟨rfl, rfl⟩, same, owned⟩

theorem column_live (owned : m.ownsColumn ref = true) : ref.model = m.id := by
  unfold ownsColumn at owned
  simp only [Bool.and_eq_true, decide_eq_true_eq] at owned
  exact owned.1

theorem column_within (owned : m.ownsColumn ref = true) : ref.index < m.matrix.columnCount := by
  unfold ownsColumn at owned
  simp only [Bool.and_eq_true, decide_eq_true_eq] at owned
  exact owned.2

theorem row_within (owned : m.ownsRow ref = true) : ref.index < m.matrix.rowCount := by
  unfold ownsRow at owned
  simp only [Bool.and_eq_true, decide_eq_true_eq] at owned
  exact owned.2

theorem row_live (owned : m.ownsRow ref = true) : ref.model = m.id := by
  unfold ownsRow at owned
  simp only [Bool.and_eq_true, decide_eq_true_eq] at owned
  exact owned.1

def termsOf (e : Expr) : List (Nat × Float) := e.coefficients.map fun t => (t.1.index, t.2)

/-- All variables of an expression are of the live model. -/
def ownsExpr (m : Model) (e : Expr) : Prop := ∀ t ∈ e.coefficients, m.ownsColumn t.1 = true

theorem termsOf_within (owned : m.ownsExpr e) : ∀ t ∈ termsOf e, t.1 < m.matrix.columnCount := by
  intro t member
  obtain ⟨u, listed, rfl⟩ := List.mem_map.1 member
  exact column_within (owned u listed)

theorem keeps_exprTerms (e : Expr) : Keeps (exprTerms e) :=
  .mapM (fun _ => .bind (keeps_checkVariable _) fun _ => .pure _) _

theorem exprTerms_ok_iff :
    exprTerms e m = .ok terms n ↔ m = n ∧ terms = termsOf e ∧ m.ownsExpr e := by
  have one (t : Ref × Float) (s : Model) (b : Nat × Float) (s' : Model) :
      (do return (← checkVariable t.1, t.2) : ModelM (Nat × Float)) s = .ok b s' ↔
        s = s' ∧ b = (t.1.index, t.2) ∧ s.ownsColumn t.1 = true := by
    simp only [bind_ok_iff, checkVariable_ok_iff, pure_ok_iff]
    constructor
    · rintro ⟨_, _, ⟨rfl, rfl, owned⟩, rfl, rfl⟩
      exact ⟨rfl, rfl, owned⟩
    · rintro ⟨rfl, rfl, owned⟩
      exact ⟨_, _, ⟨rfl, rfl, owned⟩, rfl, rfl⟩
  unfold exprTerms
  refine (mapM_ok_iff (r := fun t : Ref × Float => (t.1.index, t.2))
    (fun t => .bind (keeps_checkVariable _) fun _ => .pure _)
    (fun h => ((one _ _ _ _).1 h).2.1)).trans ?_
  simp only [one, true_and]
  rfl

end Checks

end Model

end LinProg
