import Mathlib
import LinProg.Model.Solution
import LinProg.Proofs.Model.Objective
import LinProg.Proofs.Model.Rows
import LinProg.Proofs.Model.Variables

/-!
# Models that agree

Two models agree if they differ in nothing but queued edits that a flush carries out, and in their
update mode.  An operation on two such models has the same result, and they agree after it; one that
reads flushed content needs the same matrix in both.
-/

namespace LinProg

/-- The same parameters, the update mode left aside. -/
def Params.AgreesWith (p q : Params) : Prop :=
  ({ p with updateMode := 0 } : Params) = { q with updateMode := 0 }

namespace Model
open Operation

/-- The same model, but for its update mode and for edits still in the queue. -/
structure Agrees (m n : Model) : Prop where
  id : m.id = n.id
  solver : m.env.solver = n.env.solver
  params : m.env.params.AgreesWith n.env.params
  matrix : m.matrix.Agrees n.matrix
  handles : m.handles = n.handles
  generation : m.generation = n.generation

/-- Models that agree and have the same matrix, with the same queue. -/
def SameMatrix (m n : Model) : Prop := m.Agrees n ∧ m.matrix = n.matrix

variable {m n : Model} {α : Type}

theorem Agrees.withMatrix (agree : m.Agrees n) {x y : Matrix} (matrix : x.Agrees y) :
    { m with matrix := x }.Agrees { n with matrix := y } :=
  ⟨agree.id, agree.solver, agree.params, matrix, agree.handles, agree.generation⟩

/-! ### Parts of operations -/

theorem lockstep_onMatrix {op : MatrixM α} (steps : Lockstep Matrix.Agrees Matrix.Agrees op) :
    Lockstep Agrees Agrees (onMatrix op) := by
  intro m n agree
  have ends := steps m.matrix n.matrix agree.matrix
  unfold onMatrix
  cases left : op m.matrix with
  | ok a x =>
    cases right : op n.matrix with
    | ok b y =>
      rw [left, right] at ends
      exact ⟨ends.1, agree.withMatrix ends.2⟩
    | error cause y =>
      rw [left, right] at ends
      exact ends.elim
  | error cause x =>
    cases right : op n.matrix with
    | ok b y =>
      rw [left, right] at ends
      exact ends.elim
    | error cause' y =>
      rw [left, right] at ends
      exact ⟨congrArg ModelError.matrix ends.1, agree.withMatrix ends.2⟩

theorem same_onMatrix (op : MatrixM α) : Lockstep SameMatrix SameMatrix (onMatrix op) := by
  rintro m n ⟨agree, same⟩
  unfold onMatrix
  rw [same]
  cases op n.matrix with
  | ok a x => exact ⟨rfl, agree.withMatrix rfl, rfl⟩
  | error cause x => exact ⟨rfl, agree.withMatrix rfl, rfl⟩

/-- After a flush models that agree have the same matrix. -/
theorem lockstep_flush : Lockstep Agrees SameMatrix (onMatrix Matrix.flushM) := by
  intro m n agree
  have same : m.matrix.flush = n.matrix.flush := agree.matrix
  exact ⟨rfl, agree.withMatrix (congrArg Matrix.flush same), same⟩

theorem lockstep_lookUp {P : Model → Model → Prop} (result : Except MatrixError α) :
    Lockstep P P (lookUp result) := by
  cases result with
  | ok a => exact .pure _
  | error cause => exact .throw _

theorem Agrees.refl (m : Model) : m.Agrees m := ⟨rfl, rfl, rfl, rfl, rfl, rfl⟩

theorem agrees_synced (m : Model) : m.Agrees m.synced := by
  unfold synced
  split
  · exact ⟨rfl, rfl, rfl, .flushed m.matrix, rfl, rfl⟩
  · exact .refl m

theorem Agrees.symm (agree : m.Agrees n) : n.Agrees m :=
  ⟨agree.id.symm, agree.solver.symm, Eq.symm agree.params, Eq.symm agree.matrix,
    agree.handles.symm, agree.generation.symm⟩

theorem Agrees.trans {k : Model} (first : m.Agrees n) (second : n.Agrees k) : m.Agrees k :=
  ⟨first.id.trans second.id, first.solver.trans second.solver,
    Eq.trans first.params second.params, Eq.trans first.matrix second.matrix,
    first.handles.trans second.handles, first.generation.trans second.generation⟩

theorem lockstep_sync : Lockstep Agrees Agrees sync := fun m n agree =>
  ⟨rfl, (agrees_synced m).symm.trans (agree.trans (agrees_synced n))⟩

theorem Agrees.ownsColumn (agree : m.Agrees n) (ref : Ref) :
    m.ownsColumn ref = n.ownsColumn ref := by
  unfold Model.ownsColumn
  rw [agree.id, agree.matrix.columnCount]

theorem Agrees.ownsRow (agree : m.Agrees n) (ref : Ref) : m.ownsRow ref = n.ownsRow ref := by
  unfold Model.ownsRow
  rw [agree.id, agree.matrix.rowCount]

theorem Agrees.ownsObjective (agree : m.Agrees n) (model generation : Nat) :
    m.ownsObjective model generation = n.ownsObjective model generation := by
  unfold Model.ownsObjective
  rw [agree.id, agree.generation]

section Checks

variable {P : Model → Model → Prop} (within : ∀ m n, P m n → Agrees m n)
include within

theorem lockstep_checkVariable (ref : Ref) : Lockstep P P (checkVariable ref) := by
  refine .get_bind fun m n related => ?_
  rw [(within m n related).ownsColumn]
  split
  · exact ⟨rfl, related⟩
  · exact ⟨rfl, related⟩

theorem lockstep_checkRow (ref : Ref) : Lockstep P P (checkRow ref) := by
  refine .get_bind fun m n related => ?_
  rw [(within m n related).ownsRow]
  split
  · exact ⟨rfl, related⟩
  · exact ⟨rfl, related⟩

theorem lockstep_checkObjective (model generation : Nat) :
    Lockstep P P (checkObjective model generation) := by
  refine .get_bind fun m n related => ?_
  rw [(within m n related).ownsObjective]
  split
  · exact ⟨rfl, related⟩
  · exact ⟨rfl, related⟩

theorem lockstep_exprTerms (e : Expr) : Lockstep P P (exprTerms e) :=
  .mapM (fun _ => .bind (lockstep_checkVariable within _) fun _ => .pure _) _

end Checks

theorem lockstep_checkLengths (check : Except LengthMismatch Unit) :
    Lockstep Agrees Agrees (checkLengths check) := by
  cases check with
  | ok => exact .pure _
  | error cause => exact .throw _

/-! ### Variables -/

theorem Agrees.withHandles (agree : m.Agrees n) {listed others : List Variable}
    (same : listed = others) :
    { m with handles := listed }.Agrees { n with handles := others } :=
  ⟨agree.id, agree.solver, agree.params, agree.matrix, same, agree.generation⟩

theorem lockstep_syncReturn (a : α) : Lockstep Agrees Agrees (do sync; return a) :=
  .bind lockstep_sync fun _ => .pure _

theorem lockstep_addVariables (lowers uppers : List Float) (domains : Option (List Domain))
    (names : Option (List String)) :
    Lockstep Agrees Agrees (addVariables lowers uppers domains names) := by
  refine .bind (lockstep_checkLengths _) fun _ => ?_
  refine .bind (lockstep_checkLengths _) fun _ => ?_
  refine .bind (lockstep_checkLengths _) fun _ => ?_
  refine .bind (lockstep_onMatrix (Matrix.lockstep_addColumns _ _ _ _ _)) fun start => ?_
  refine .get_bind fun m n agree => ?_
  rw [congrArg handlesOf agree.id]
  exact lockstep_syncReturn _ _ _ (agree.withHandles (congrArg (· ++ _) agree.handles))

theorem lockstep_addVariable (lower upper : Float) (domain : Domain) (name : Option String) :
    Lockstep Agrees Agrees (addVariable lower upper domain name) := by
  refine .bind (lockstep_addVariables _ _ _ _) fun added => ?_
  cases added with
  | nil => exact .throw _
  | cons v rest => exact .pure _

theorem lockstep_objectiveColumn (objective : Objective) (c : Float) :
    Lockstep Agrees Agrees (objectiveColumn objective c) := by
  refine .bind (lockstep_checkObjective (fun _ _ h => h) _ _) fun _ => ?_
  refine .get_bind fun m n agree => ?_
  rw [agree.id, agree.generation]
  exact ⟨rfl, agree⟩

theorem lockstep_rowColumn (row : Ref) (c : Float) : Lockstep Agrees Agrees (rowColumn row c) :=
  .bind (lockstep_checkRow (fun _ _ h => h) _) fun _ => .pure _

theorem lockstep_columnObjective (column : Column) :
    Lockstep Agrees Agrees (columnObjective column) := by
  unfold columnObjective
  cases column.objective with
  | none => exact .pure _
  | some part => exact .bind (lockstep_checkObjective (fun _ _ h => h) _ _) fun _ => .pure _

theorem lockstep_addWithColumn (column : Column) (lower upper : Float) (domain : Domain)
    (name : Option String) :
    Lockstep Agrees Agrees (addWithColumn column lower upper domain name) := by
  refine .bind (lockstep_columnObjective column) fun objective => ?_
  refine .bind (.mapM (fun t => .bind (lockstep_checkRow (fun _ _ h => h) _) fun _ => .pure _) _)
    fun memberships => ?_
  refine .bind (lockstep_onMatrix (Matrix.lockstep_addColumn _ _)) fun index => ?_
  refine .get_bind fun m n agree => ?_
  rw [congrArg Ref.mk agree.id]
  exact lockstep_syncReturn _ _ _ (agree.withHandles (congrArg (· ++ _) agree.handles))

theorem lockstep_modifyListed (index : Nat) (f : Variable → Variable) :
    Lockstep Agrees Agrees (modifyListed index f) :=
  .change fun _ _ agree => agree.withHandles (congrArg (·.modify index f) agree.handles)

theorem lockstep_convertDomain (v : Variable) (domain : Domain) :
    Lockstep Agrees Agrees (convertDomain v domain) := by
  refine .bind (lockstep_checkVariable (fun _ _ h => h) _) fun index => ?_
  dsimp only
  split
  · refine .bind (lockstep_onMatrix (Matrix.lockstep_setDomain _ _)) fun _ => ?_
    exact .bind (lockstep_modifyListed _ _) fun _ => .bind lockstep_sync fun _ => .pure _
  · exact .throw_bind _ _

theorem lockstep_setVariableName (v : Variable) (name : String) :
    Lockstep Agrees Agrees (setVariableName v name) := by
  refine .bind (lockstep_checkVariable (fun _ _ h => h) _) fun index => ?_
  refine .bind (lockstep_onMatrix (Matrix.lockstep_setColumnName _ _)) fun _ => ?_
  exact .bind (lockstep_modifyListed _ _) fun _ => lockstep_syncReturn _

/-! ### Rows -/

theorem lockstep_addSlack? (plan : RowPlan) (name : Option String) :
    Lockstep Agrees Agrees (addSlack? plan name) := by
  unfold addSlack?
  cases plan.slackUpper? with
  | none => exact .pure _
  | some width =>
    refine .bind ?_ fun _ => .pure _
    refine .bind (lockstep_onMatrix (Matrix.lockstep_addColumns _ _ _ _ _)) fun index => ?_
    refine .get_bind fun m n agree => ?_
    rw [congrArg Ref.mk agree.id]
    exact ⟨rfl, agree.withHandles (congrArg (· ++ _) agree.handles)⟩

/-- The last steps of an operation that adds a row. -/
theorem lockstep_syncRef {f : Ref → α} (row : Nat) :
    Lockstep Agrees Agrees (do sync; return f ⟨(← get).id, row⟩) := by
  refine .bind lockstep_sync fun _ => .get_bind fun m n agree => ?_
  rw [agree.id]
  exact ⟨rfl, agree⟩

theorem lockstep_addRange (lower : Float) (expr : Expr) (upper : Float) (name : Option String) :
    Lockstep Agrees Agrees (addRange lower expr upper name) := by
  unfold addRange
  cases RowPlan.ofBounds? lower upper with
  | none => exact .throw _
  | some plan =>
    refine .bind (lockstep_exprTerms (fun _ _ h => h) expr) fun terms => ?_
    refine .bind (lockstep_addSlack? plan name) fun slack => ?_
    refine .bind (lockstep_onMatrix (Matrix.lockstep_addRow _ _ _ _)) fun row => ?_
    exact lockstep_syncRef (f := fun ref => Range.mk ref lower upper name expr slack) row

theorem lockstep_addRelation (left : Expr) (relation : Relation) (right : Expr)
    (name : Option String) :
    Lockstep Agrees Agrees (addRelation left relation right name) := by
  refine .bind (lockstep_exprTerms (fun _ _ h => h) _) fun terms => ?_
  refine .bind (lockstep_onMatrix (Matrix.lockstep_addRow _ _ _ _)) fun row => ?_
  exact lockstep_syncRef (f := fun ref => Constraint.mk ref relation name) row

theorem lockstep_desiredEntries (range : Range) (expr : Expr) :
    Lockstep Agrees Agrees (desiredEntries range expr) := by
  refine .bind (lockstep_exprTerms (fun _ _ h => h) expr) fun terms => ?_
  cases range.slack with
  | none => exact .pure _
  | some v => exact .bind (lockstep_checkVariable (fun _ _ h => h) _) fun _ => .pure _

theorem lockstep_applyDelta (row : Nat) (delta : RowDelta) :
    Lockstep SameMatrix SameMatrix (applyDelta row delta) := by
  unfold applyDelta
  split
  · exact .pure _
  · exact same_onMatrix _

theorem lockstep_updateRhs (row : Nat) (rhs : Float) :
    Lockstep SameMatrix SameMatrix (updateRhs row rhs) := by
  refine .get_bind fun m n same => ?_
  rw [same.2]
  refine Lockstep.bind (lockstep_lookUp _) (fun installed => ?_) m n same
  split
  · exact same_onMatrix _
  · exact .pure _

theorem lockstep_replaceExpression (range : Range) (expr : Expr) :
    Lockstep Agrees Agrees (replaceExpression range expr) := by
  have forget (m n : Model) (same : SameMatrix m n) : Agrees m n := same.1
  refine .bind (lockstep_checkRow (fun _ _ h => h) _) fun row => ?_
  refine .bind (lockstep_desiredEntries range expr) fun desired => ?_
  refine .bind' lockstep_flush (fun _ => ?_) forget
  -- from here on both models have the same flushed matrix
  refine .get_bind fun m n same => ?_
  rw [same.2]
  refine Lockstep.bind' (lockstep_lookUp _) (fun installed => ?_) forget m n same
  refine .bind' (lockstep_applyDelta _ _) (fun _ => ?_) forget
  refine .bind' (lockstep_updateRhs _ _) (fun _ => ?_) forget
  exact (lockstep_syncReturn _).mono forget fun _ _ agree => agree

theorem lockstep_setRangeName (range : Range) (name : String) :
    Lockstep Agrees Agrees (setRangeName range name) := by
  refine .bind (lockstep_checkRow (fun _ _ h => h) _) fun row => ?_
  refine .bind (lockstep_onMatrix (Matrix.lockstep_setRowName _ _)) fun _ => ?_
  exact lockstep_syncReturn _

theorem lockstep_rowCoefficients (row : Ref) :
    Lockstep Agrees Agrees (rowCoefficients row) := by
  have forget (m n : Model) (same : SameMatrix m n) : Agrees m n := same.1
  refine .bind (lockstep_checkRow (fun _ _ h => h) _) fun index => ?_
  refine .bind' lockstep_flush (fun _ => ?_) forget
  refine .get_bind fun m n same => ?_
  rw [same.2]
  refine Lockstep.bind (lockstep_lookUp _) (fun _ => .pure _) m n same.1

/-! ### The objective -/

theorem lockstep_addObjective (expr : Expr) (sense : Sense) :
    Lockstep Agrees Agrees (addObjective expr sense) := by
  refine .bind (lockstep_exprTerms (fun _ _ h => h) expr) fun terms => ?_
  refine .bind (lockstep_onMatrix (Matrix.lockstep_setObjective _ _ _)) fun _ => ?_
  refine .bind (.change fun m n agree => ?_) fun _ => .bind lockstep_sync fun _ => ?_
  · exact ⟨agree.id, agree.solver, agree.params, agree.matrix, agree.handles,
      congrArg (· + 1) agree.generation⟩
  · refine .get_bind fun m n agree => ?_
    rw [agree.id, agree.generation]
    exact ⟨rfl, agree⟩

theorem lockstep_replaceObjective (objective : Objective) (expr : Expr) :
    Lockstep Agrees Agrees (replaceObjective objective expr) := by
  refine .bind (lockstep_checkObjective (fun _ _ h => h) _ _) fun _ => ?_
  refine .bind (lockstep_exprTerms (fun _ _ h => h) expr) fun terms => ?_
  refine .bind (lockstep_onMatrix (Matrix.lockstep_setObjective _ _ _)) fun _ => ?_
  exact lockstep_syncReturn _

theorem lockstep_setLinearCoefficient (objective : Objective) (v : Variable) (c : Float) :
    Lockstep Agrees Agrees (setLinearCoefficient objective v c) := by
  refine .bind (lockstep_checkObjective (fun _ _ h => h) _ _) fun _ => ?_
  refine .bind (lockstep_checkVariable (fun _ _ h => h) _) fun index => ?_
  refine .bind (lockstep_onMatrix (Matrix.lockstep_setObjectiveCoefficient _ _)) fun _ => ?_
  exact lockstep_syncReturn _

theorem lockstep_objectiveCoefficients : Lockstep Agrees Agrees objectiveCoefficients := by
  refine .bind' lockstep_flush (fun _ => ?_) fun _ _ same => same.1
  refine .get_bind fun m n same => ?_
  rw [same.2]
  exact ⟨rfl, same.1⟩

end Model

end LinProg
