import LinProg.Matrix.View
import LinProg.Model.Basic

/-!
# The objective of a model

Installing an objective makes the handles on earlier ones stale.
-/

namespace LinProg.Model

/-- Installs an objective in place of the current one. -/
def addObjective (expr : Expr) (sense : Sense) : ModelM Objective := do
  let terms ← exprTerms expr
  onMatrix (Matrix.setObjective terms expr.constant sense)
  modify fun m => { m with generation := m.generation + 1 }
  sync
  let m ← get
  return ⟨m.id, m.generation, sense, expr⟩

/-- Replaces the expression of the current objective; returns the changed handle. -/
def replaceObjective (objective : Objective) (expr : Expr) : ModelM Objective := do
  checkObjective objective.model objective.generation
  let terms ← exprTerms expr
  onMatrix (Matrix.setObjective terms expr.constant objective.sense)
  sync
  return { objective with expr }

def setLinearCoefficient (objective : Objective) (v : Variable) (c : Float) :
    ModelM Objective := do
  checkObjective objective.model objective.generation
  let index ← checkVariable v.ref
  onMatrix (Matrix.setObjectiveCoefficient index c)
  sync
  return { objective with expr := objective.expr.setCoefficient v c }

/-- The objective coefficients that are not zero, by position, after a flush. -/
def objectiveCoefficients : ModelM (List (Nat × Float)) := do
  onMatrix Matrix.flushM
  return (← get).matrix.body.objectiveTerms

end LinProg.Model
