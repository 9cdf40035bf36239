import Mathlib
import LinProg.Model.Objective
import LinProg.Proofs.Model.Operation

/-!
# What operations on the objective do

Installing an objective and replacing its expression queue the same edit; only the first starts a new
generation.
-/

namespace LinProg.Model
open Operation

variable {m n : Model} {expr : Expr} {sense : Sense} {objective after : Objective}

theorem addObjective_ok (h : addObjective expr sense m = .ok objective n) :
    m.ownsExpr expr ∧ objective = ⟨m.id, m.generation + 1, sense, expr⟩ ∧
      n = Model.synced { m.edited (.setObjective (termsOf expr) expr.constant sense) 0 0 with
        generation := m.generation + 1 } := by
  unfold addObjective at h
  simp only [bind_ok_iff, exprTerms_ok_iff, onMatrix_ok_iff (Matrix.queues_setObjective ..),
    modify_ok_iff, sync_ok_iff, get_ok_iff, pure_ok_iff] at h
  obtain ⟨_, _, ⟨rfl, rfl, owned⟩, _, _, ⟨-, -, rfl⟩, _, _, rfl, _, _, rfl, _, _, ⟨rfl, rfl⟩, rfl,
    rfl⟩ := h
  refine ⟨owned, ?_, rfl⟩
  simp [edited]

theorem harmless_addObjective (expr : Expr) (sense : Sense) :
    Harmless (addObjective expr sense) := by
  refine (keeps_exprTerms expr).bind_harmless fun _ => ?_
  refine (harmless_onMatrix (Matrix.queues_setObjective ..).harmless).bind_succeeds fun _ => ?_
  exact .bind (.modify _) fun _ => .bind succeeds_sync fun _ => .bind .get fun _ => .pure _

theorem replaceObjective_ok (h : replaceObjective objective expr m = .ok after n) :
    m.ownsObjective objective.model objective.generation = true ∧ m.ownsExpr expr ∧
      after = { objective with expr } ∧
      n = (m.edited (.setObjective (termsOf expr) expr.constant objective.sense) 0 0).synced := by
  unfold replaceObjective at h
  simp only [bind_ok_iff, checkObjective_ok_iff, exprTerms_ok_iff,
    onMatrix_ok_iff (Matrix.queues_setObjective ..), sync_ok_iff, pure_ok_iff] at h
  obtain ⟨_, _, ⟨rfl, current⟩, _, _, ⟨rfl, rfl, owned⟩, _, _, ⟨-, -, rfl⟩, _, _, rfl, rfl, rfl⟩ := h
  exact ⟨current, owned, rfl, rfl⟩

theorem harmless_replaceObjective (objective : Objective) (expr : Expr) :
    Harmless (replaceObjective objective expr) := by
  refine (keeps_checkObjective _ _).bind_harmless fun _ => ?_
  refine (keeps_exprTerms expr).bind_harmless fun _ => ?_
  refine (harmless_onMatrix (Matrix.queues_setObjective ..).harmless).bind_succeeds fun _ => ?_
  exact .bind succeeds_sync fun _ => .pure _

theorem setLinearCoefficient_ok {v : Variable} {c : Float}
    (h : setLinearCoefficient objective v c m = .ok after n) :
    m.ownsObjective objective.model objective.generation = true ∧ m.ownsColumn v.ref = true ∧
      after = { objective with expr := objective.expr.setCoefficient v c } ∧
      n = (m.edited (.setObjectiveCoefficient v.ref.index c) 0 0).synced := by
  unfold setLinearCoefficient at h
  simp only [bind_ok_iff, checkObjective_ok_iff, checkVariable_ok_iff,
    onMatrix_ok_iff (Matrix.queues_setObjectiveCoefficient ..), sync_ok_iff, pure_ok_iff] at h
  obtain ⟨_, _, ⟨rfl, current⟩, _, _, ⟨rfl, rfl, owned⟩, _, _, ⟨-, -, rfl⟩, _, _, rfl, rfl, rfl⟩ := h
  exact ⟨current, owned, rfl, rfl⟩

theorem harmless_setLinearCoefficient (objective : Objective) (v : Variable) (c : Float) :
    Harmless (setLinearCoefficient objective v c) := by
  refine (keeps_checkObjective _ _).bind_harmless fun _ => ?_
  refine (keeps_checkVariable _).bind_harmless fun _ => ?_
  refine (harmless_onMatrix
    (Matrix.queues_setObjectiveCoefficient ..).harmless).bind_succeeds fun _ => ?_
  exact .bind succeeds_sync fun _ => .pure _

theorem objectiveCoefficients_eq (m : Model) :
    objectiveCoefficients m = .ok m.flushed.matrix.body.objectiveTerms m.flushed := rfl

end LinProg.Model
