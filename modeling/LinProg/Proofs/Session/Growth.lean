import Mathlib
import LinProg.Proofs.Matrix.File
import LinProg.Proofs.Matrix.Growth
import LinProg.Proofs.Matrix.Reconcile
import LinProg.Proofs.Session.Agreement

/-!
# What calls do to the matrix

A request makes the matrix of its model grow, whether it succeeds or fails, and says which rows it
spares: `Request.grows`.  So every session that calls lead to is sound: `Call.sound_run`.
-/

namespace LinProg
open Operation

namespace Model

variable {m n x : Model} {P : Edit → Prop} {k : Matrix} {spared : Ref → Prop} {α : Type}

theorem extends_synced (grows : k.Extends P m.matrix) : k.Extends P m.synced.matrix := by
  unfold synced
  split
  · exact grows.flush
  · exact grows

/-- The second model is the first one with a grown matrix; the edits leave the spared rows alone. -/
structure Grows (spared : Ref → Prop) (m n : Model) : Prop where
  id : n.id = m.id
  matrix : m.matrix.Extends
    (fun e => ∀ ref : Ref, ref.model = m.id → spared ref → e.LeavesRow ref.index) n.matrix

theorem Grows.refl (m : Model) : m.Grows spared m := ⟨rfl, .refl⟩

theorem Grows.flushed (m : Model) : m.Grows spared m.flushed := ⟨rfl, .flush .refl⟩

/-- One edit that leaves every row alone, and maybe a flush. -/
theorem Grows.of_edit {e : Edit} (fits : e.Fits m.matrix.columnCount)
    (leaves : ∀ ref : Ref, ref.model = m.id → spared ref → e.LeavesRow ref.index)
    (id : x.id = m.id) (matrix : x.matrix = m.matrix.extended e) : m.Grows spared x.synced := by
  refine ⟨(id_synced x).trans id, extends_synced ?_⟩
  rw [matrix]
  exact .edit .refl fits leaves

/-- The operation makes sound models grow, whether it succeeds or fails. -/
def Spares (spared : Ref → Prop) (op : ModelM α) : Prop :=
  ∀ m : Model, m.matrix.Sound → m.Grows spared (final (op m))

namespace Spares

theorem of_keeps {op : ModelM α} (keeps : Keeps op) : Spares spared op := by
  intro m _
  rw [keeps m]
  exact .refl m

theorem of_ok {op : ModelM α}
    (ok : ∀ {m a n}, m.matrix.Sound → op m = .ok a n → m.Grows spared n)
    (error : ∀ {m cause n}, op m = .error cause n → n = m ∨ n = m.flushed) :
    Spares spared op := by
  intro m sound
  cases result : op m with
  | ok a n => exact ok sound result
  | error cause n =>
    rcases error result with rfl | rfl
    · exact .refl _
    · exact .flushed m

theorem of_harmless {op : ModelM α} (harmless : Harmless op)
    (ok : ∀ {m a n}, op m = .ok a n → m.Grows spared n) : Spares spared op :=
  of_ok (fun _ h => ok h) fun h => .inl (harmless.of_error h)

end Spares

@[simp] theorem id_withDelta (m : Model) (row : Nat) (delta : RowDelta) :
    (m.withDelta row delta).id = m.id := by
  unfold withDelta
  split <;> rfl

@[simp] theorem id_withRhs (m : Model) (row : Nat) (installed rhs : Float) :
    (m.withRhs row installed rhs).id = m.id := by
  unfold withRhs
  split <;> rfl

/-! ### Rows -/

theorem extends_withSlackOf (plan : RowPlan) (name : Option String)
    (holds : ∀ columns, P (.addColumns columns)) :
    m.matrix.Extends P (m.withSlackOf plan name).matrix := by
  unfold withSlackOf
  split
  · exact .edit .refl trivial (holds _)
  · exact .refl

theorem grows_addRange {lower upper : Float} {expr : Expr} {name : Option String} {range : Range}
    (h : addRange lower expr upper name m = .ok range n) : m.Grows spared n := by
  obtain ⟨plan, -, owned, -, rfl⟩ := addRange_ok_iff.1 h
  refine ⟨(id_synced _).trans (id_withSlackOf m plan name), extends_synced ?_⟩
  refine .edit (extends_withSlackOf plan name fun _ _ _ _ => trivial) ?_ fun _ _ _ => trivial
  exact withSlack_within owned plan name

theorem extends_withDelta (grows : k.Extends P m.matrix) {row : Nat} {delta : RowDelta}
    (within : ∀ t ∈ delta.target.toList, t.1 < m.matrix.columnCount)
    (holds : P (.changeCoefficients (deltaBatch row delta))) :
    k.Extends P (m.withDelta row delta).matrix := by
  unfold withDelta
  split
  · exact grows
  · refine .edit grows ?_ holds
    show ∀ t ∈ deltaBatch row delta, t.2.1 < _
    rw [deltaBatch_eq]
    intro t member
    obtain ⟨u, listed, rfl⟩ := List.mem_map.1 member
    exact within u listed

theorem extends_withRhs (grows : k.Extends P m.matrix) {row : Nat} {installed rhs : Float}
    (holds : P (.setRhs row rhs)) : k.Extends P (m.withRhs row installed rhs).matrix := by
  unfold withRhs
  split
  · exact .edit grows trivial holds
  · exact grows

theorem desired_within {range : Range} {expr : Expr} (owned : m.ownsExpr expr)
    (slack : ∀ v ∈ range.slack, m.ownsColumn v.ref = true) :
    ∀ t ∈ withSlack (termsOf expr) range.slack, t.1 < m.matrix.columnCount := by
  intro t member
  unfold withSlack at member
  split at member
  · rename_i v own
    rcases List.mem_append.1 member with listed | last
    · exact termsOf_within owned t listed
    · rw [List.mem_singleton.1 last]
      exact column_within (slack v own)
  · exact termsOf_within owned t member

theorem delta_within {range : Range} {expr : Expr} {installed : MatrixRow}
    (sound : m.matrix.Sound)
    (present : m.matrix.flush.body.rows[range.ref.index]? = some installed)
    (owned : m.ownsExpr expr) (slack : ∀ v ∈ range.slack, m.ownsColumn v.ref = true) :
    ∀ t ∈ (RowDelta.between installed.entries
        (withSlack (termsOf expr) range.slack)).target.toList,
      t.1 < m.matrix.columnCount := by
  intro t member
  obtain ⟨u, source, same⟩ := RowDelta.mem_target member
  rw [← same]
  rcases List.mem_append.1 source with old | new
  · exact Body.Sound.within_of_getElem? sound present u old
  · exact desired_within owned slack u new

theorem grows_replaceExpression {range after : Range} {expr : Expr} (sound : m.matrix.Sound)
    (h : replaceExpression range expr m = .ok after n) : m.Grows (· ≠ range.ref) n := by
  obtain ⟨owned, mine, slack, -, installed, present, rfl⟩ := replaceExpression_ok h
  have other : ∀ ref : Ref, ref.model = m.id → ref ≠ range.ref → range.ref.index ≠ ref.index := by
    intro ref live different same
    exact different (Ref.eq_of (live.trans (row_live owned).symm) same.symm)
  refine ⟨?_, extends_synced (extends_withRhs (extends_withDelta (m := m.flushed) (.flush .refl)
    ?_ ?_) other)⟩
  · rw [id_synced, id_withRhs, id_withDelta]
    rfl
  · intro t member
    show t.1 < m.matrix.flush.columnCount
    rw [Matrix.columnCount_flush]
    exact delta_within sound present mine slack t member
  · intro ref live different t member
    rw [deltaBatch_eq] at member
    obtain ⟨u, -, rfl⟩ := List.mem_map.1 member
    exact other ref live different

end Model

/-! ### Requests -/

namespace Request
open Model (Spares)

/-- The request neither replaces the expression of a row nor adds a column to it. -/
def Spares (ref : Ref) : Request → Prop
  | addWithColumn column .. => column.rows.get? ref = none
  | replaceExpression range _ => ref ≠ range.ref
  | _ => True

theorem spares_answer {spared : Ref → Prop} {α : Type} {op : ModelM α} (h : Model.Spares spared op)
    (f : α → Answer) : Model.Spares spared (do return f (← op)) := by
  intro m sound
  rw [final_bind_pure]
  exact h m sound

/-- A request makes its model grow, and leaves the rows alone that it spares. -/
theorem grows (r : Request) : Model.Spares (fun ref => r.Spares ref) r.carryOut := by
  cases reads : r.readsFlushed with
  | true => exact .of_keeps (r.keeps_carryOut reads)
  | false =>
    cases r with
    | setInt param value =>
      refine spares_answer (.of_harmless (Model.harmless_setInt _ _) fun h => ?_) _
      obtain ⟨params, -, rfl⟩ := Model.setInt_ok h
      exact ⟨Model.id_synced _, Model.extends_synced .refl⟩
    | setReal param value =>
      refine spares_answer (.of_harmless (Model.harmless_setReal _ _) fun h => ?_) _
      obtain ⟨params, -, rfl⟩ := Model.setReal_ok h
      exact ⟨rfl, .refl⟩
    | addVariables lowers uppers domains names =>
      refine spares_answer (.of_harmless (Model.harmless_addVariables _ _ _ _) fun h => ?_) _
      obtain ⟨lengths, -, rfl⟩ := Model.addVariables_ok h
      refine .of_edit ?_ ?_ rfl (Matrix.extended_addColumns lengths none domains (some _)).symm
      · trivial
      · exact fun _ _ _ => trivial
    | addVariable =>
      refine spares_answer (.of_harmless (Model.harmless_addVariable _ _ _ _) fun h => ?_) _
      obtain ⟨-, rfl⟩ := Model.addVariable_ok h
      exact .of_edit (e := .addColumns [_]) trivial (fun _ _ _ => trivial) rfl rfl
    | objectiveColumn => exact spares_answer (.of_keeps (Model.keeps_objectiveColumn _ _)) _
    | rowColumn => exact spares_answer (.of_keeps (Model.keeps_rowColumn _ _)) _
    | addWithColumn column =>
      refine spares_answer (.of_harmless (Model.harmless_addWithColumn _ _ _ _ _) fun h => ?_) _
      obtain ⟨-, owned, -, rfl⟩ := Model.addWithColumn_ok h
      refine .of_edit (e := .addColumn _ (Model.membershipsOf column)) trivial ?_ rfl rfl
      intro ref live absent t member same
      obtain ⟨u, listed, rfl⟩ := List.mem_map.1 member
      have here : u.1 = ref := Ref.eq_of ((Model.row_live (owned u listed)).trans live.symm) same
      have found : column.rows.get? u.1 = some u.2 := Sparse.mem_toList_iff.1 listed
      rw [here] at found
      cases absent.symm.trans found
    | convertDomain =>
      refine spares_answer (.of_harmless (Model.harmless_convertDomain _ _) fun h => ?_) _
      obtain ⟨-, -, -, rfl⟩ := Model.convertDomain_ok h
      exact .of_edit (e := .setDomain _ _) trivial (fun _ _ _ => trivial) rfl rfl
    | setVariableName =>
      refine spares_answer (.of_harmless (Model.harmless_setVariableName _ _) fun h => ?_) _
      obtain ⟨-, -, rfl⟩ := Model.setVariableName_ok h
      exact .of_edit (e := .setColumnName _ _) trivial (fun _ _ _ => trivial) rfl rfl
    | handles => exact .of_keeps (.bind .get fun _ => .pure _)
    | counts => exact .of_keeps (.bind .get fun _ => .bind .get fun _ => .pure _)
    | addRange =>
      refine spares_answer (.of_harmless (Model.harmless_addRange _ _ _ _) fun h => ?_) _
      exact Model.grows_addRange h
    | addRelation left relation right =>
      refine spares_answer (.of_harmless (Model.harmless_addRelation _ _ _ _) fun h => ?_) _
      obtain ⟨owned, -, rfl⟩ := Model.addRelation_ok_iff.1 h
      refine .of_edit (e := .addRow ⟨Model.termsOf (left.sub right), _, _, _⟩) ?_
        (fun _ _ _ => trivial) rfl rfl
      exact Model.termsOf_within owned
    | replaceExpression =>
      exact spares_answer (.of_ok Model.grows_replaceExpression Model.replaceExpression_error) _
    | setRangeName =>
      refine spares_answer (.of_harmless (Model.harmless_setRangeName _ _) fun h => ?_) _
      obtain ⟨-, -, rfl⟩ := Model.setRangeName_ok_iff.1 h
      exact .of_edit (e := .setRowName _ _) trivial (fun _ _ _ => trivial) rfl rfl
    | rowCoefficients =>
      refine spares_answer (.of_ok (fun _ h => ?_) Model.rowCoefficients_error) _
      obtain ⟨-, rfl, -⟩ := Model.rowCoefficients_ok h
      exact .flushed _
    | addObjective =>
      refine spares_answer (.of_harmless (Model.harmless_addObjective _ _) fun h => ?_) _
      obtain ⟨-, -, rfl⟩ := Model.addObjective_ok h
      exact .of_edit (e := .setObjective _ _ _) trivial (fun _ _ _ => trivial) rfl rfl
    | replaceObjective =>
      refine spares_answer (.of_harmless (Model.harmless_replaceObjective _ _) fun h => ?_) _
      obtain ⟨-, -, -, rfl⟩ := Model.replaceObjective_ok h
      exact .of_edit (e := .setObjective _ _ _) trivial (fun _ _ _ => trivial) rfl rfl
    | setLinearCoefficient =>
      refine spares_answer (.of_harmless (Model.harmless_setLinearCoefficient _ _ _) fun h => ?_) _
      obtain ⟨-, -, -, rfl⟩ := Model.setLinearCoefficient_ok h
      exact .of_edit (e := .setObjectiveCoefficient _ _) trivial (fun _ _ _ => trivial) rfl rfl
    | objectiveCoefficients =>
      refine spares_answer (fun m _ => ?_) _
      rw [Model.objectiveCoefficients_eq]
      exact .flushed m
    | _ => cases reads

end Request

/-! ### Calls -/

/-- The matrix of the session is sound, and the identity of its model has been drawn. -/
structure Session.Sound (s : Session) : Prop where
  matrix : s.model.matrix.Sound
  drawn : s.model.id < s.workspace.nextId

namespace Call

variable {s : Session}

theorem model_run_request (r : Request) (s : Session) :
    ((request r).run s).2 = { s with model := final (r.carryOut s.model) } := by
  unfold run
  dsimp only
  cases r.carryOut s.model <;> rfl

/-- Writing a model file flushes the matrix at most. -/
theorem model_export (path : String) (s : Session) :
    ((exportModel path).run s).2.model = s.model ∨
      ((exportModel path).run s).2.model = s.model.flushed := by
  unfold run Workspace.exportModel Model.onMatrix
  dsimp only
  cases result : Matrix.writeTo s.workspace.disk path s.model.matrix with
  | ok d x =>
    obtain ⟨-, rfl, -⟩ := Matrix.writeTo_ok_iff.1 result
    exact .inr rfl
  | error cause x =>
    rcases Matrix.writeTo_error result with rfl | rfl
    · exact .inl rfl
    · exact .inr rfl

theorem nextId_export (path : String) (s : Session) :
    ((exportModel path).run s).2.workspace.nextId = s.workspace.nextId := by
  unfold run Workspace.exportModel
  dsimp only
  split <;> rfl

/-- Reading a model file draws an identity, or does nothing. -/
theorem run_import_cases (path : String) (s : Session) :
    ((importModel path).run s).2 = s ∨
      ∃ d : Lp.Document, ((importModel path).run s).2.model.matrix = .ofDocument d ∧
        ((importModel path).run s).2.model.id = s.workspace.nextId ∧
        ((importModel path).run s).2.workspace.nextId = s.workspace.nextId + 1 := by
  unfold run Workspace.importModel
  dsimp only
  cases read : Matrix.readFrom s.workspace.disk path with
  | error cause => exact .inl rfl
  | ok x =>
    obtain ⟨-, -, d, -, -, rfl⟩ := Matrix.readFrom_ok_iff.1 read
    exact .inr ⟨d, rfl, rfl, rfl⟩

theorem sound_run (call : Call) (sound : s.Sound) : (call.run s).2.Sound := by
  cases call with
  | request r =>
    rw [model_run_request]
    have grows := r.grows s.model sound.matrix
    exact ⟨grows.matrix.sound sound.matrix, grows.id.trans_lt sound.drawn⟩
  | solve installed =>
    obtain ⟨body, columns, rows⟩ := Matrix.flush_optimize s.model.matrix s.model.env.solver
      s.model.env.params (s.workspace.host installed)
    refine ⟨?_, sound.drawn⟩
    show (Matrix.flush _).body.Sound _ _
    exact body ▸ columns ▸ rows ▸ sound.matrix
  | exportModel path =>
    have drawn := sound.drawn
    rw [← nextId_export path s] at drawn
    rcases model_export path s with same | same
    · exact ⟨same ▸ sound.matrix, same ▸ drawn⟩
    · exact ⟨same ▸ sound.matrix.flush, same ▸ drawn⟩
  | importModel path =>
    rcases run_import_cases path s with same | ⟨d, matrix, id, next⟩
    · exact same.symm ▸ sound
    · refine ⟨matrix ▸ Matrix.sound_ofDocument d, ?_⟩
      rw [id, next]
      exact Nat.lt_succ_self _
  | others disk drawn => exact ⟨sound.matrix, Nat.lt_add_right _ sound.drawn⟩

theorem nextId_le_run (call : Call) (s : Session) :
    s.workspace.nextId ≤ (call.run s).2.workspace.nextId := by
  cases call with
  | request r => exact Nat.le_of_eq (congrArg (·.workspace.nextId) (model_run_request r s)).symm
  | solve installed => exact Nat.le_refl _
  | exportModel path => exact Nat.le_of_eq (nextId_export path s).symm
  | importModel path =>
    rcases run_import_cases path s with same | ⟨d, -, -, next⟩
    · rw [same]
    · exact next ▸ Nat.le_succ _
  | others disk drawn => exact Nat.le_add_right _ _

/-- The call neither replaces the expression of a row nor adds a column to it. -/
def Spares (ref : Ref) : Call → Prop
  | request r => r.Spares ref
  | _ => True

/-- A row that a call spares stays as it is, but for its name, if the call leaves it live. -/
theorem run_spares {ref : Ref} {call : Call} (spares : call.Spares ref) (sound : s.Sound)
    (drawn : ref.model < s.workspace.nextId) (live : ref.model = (call.run s).2.model.id) :
    ref.model = s.model.id ∧
      s.model.matrix.columnCount ≤ (call.run s).2.model.matrix.columnCount ∧
      Body.SameRow ref.index s.model.matrix.flush.body
        (call.run s).2.model.matrix.flush.body := by
  cases call with
  | request r =>
    rw [model_run_request] at live ⊢
    have grows := r.grows s.model sound.matrix
    have here : ref.model = s.model.id := live.trans grows.id
    refine ⟨here, grows.matrix.columnCount_le, Matrix.Extends.sameRow (grows.matrix.mono ?_)⟩
    exact fun e leaves => leaves ref here spares
  | solve installed =>
    obtain ⟨body, columns, -⟩ := Matrix.flush_optimize s.model.matrix s.model.env.solver
      s.model.env.params (s.workspace.host installed)
    have same : ((solve installed).run s).2.model.matrix.flush.body =
      s.model.matrix.flush.body := body
    refine ⟨live, Nat.le_of_eq columns.symm, ?_⟩
    rw [same]
    exact .refl _ _
  | exportModel path =>
    rcases model_export path s with same | same
    · rw [same] at live ⊢
      exact ⟨live, Nat.le_refl _, .refl _ _⟩
    · rw [same] at live ⊢
      refine ⟨live, Nat.le_of_eq (Matrix.columnCount_flush _).symm, ?_⟩
      show Body.SameRow _ _ s.model.matrix.flush.flush.body
      rw [Matrix.flush_flush]
      exact .refl _ _
  | importModel path =>
    rcases run_import_cases path s with same | ⟨d, -, id, -⟩
    · rw [same] at live ⊢
      exact ⟨live, Nat.le_refl _, .refl _ _⟩
    · exact absurd (live.trans id) (Nat.ne_of_lt drawn)
  | others disk drawn => exact ⟨live, Nat.le_refl _, .refl _ _⟩

end Call

namespace Session

variable {s : Session}

def create (w : Workspace) (name : String) (env : Environment) : Session :=
  ⟨(w.createModel name env).2, (w.createModel name env).1⟩

theorem sound_create (w : Workspace) (name : String) (env : Environment) :
    (create w name env).Sound := ⟨Matrix.sound_empty name, Nat.lt_succ_self _⟩

theorem sound_after (calls : List Call) (sound : s.Sound) : (s.after calls).Sound := by
  induction calls generalizing s with
  | nil => exact sound
  | cons call calls ih => exact ih (call.sound_run sound)

end Session

end LinProg
