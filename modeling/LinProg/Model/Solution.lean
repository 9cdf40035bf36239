import LinProg.Matrix.Solve
import LinProg.Model.Basic

/-!
# Solving a model and reading its solution
-/

namespace LinProg.Model

/-- Flushes and solves; tells whether an optimal solution was found. -/
def solve (m : Model) (host : Host) : Except ModelError Bool × Model × Host :=
  let (result, matrix, host) := m.matrix.optimize m.env.solver m.env.params host
  let answer := match result with
    | .ok status => .ok (status = .optimal)
    | .error cause => .error (.matrix cause)
  (answer, { m with matrix }, host)

def objectiveValue : ModelM Float := do lookUp (← get).matrix.objectiveValue

def variableAttribute (what : ColumnAttribute) (vs : List Variable) : ModelM (List Float) := do
  let columns ← vs.mapM fun v => checkVariable v.ref
  let m ← get
  lookUp (m.matrix.columnAttribute what columns)

def rowAttribute (what : RowAttribute) (rows : List Ref) : ModelM (List Float) := do
  let rows ← rows.mapM checkRow
  let m ← get
  lookUp (m.matrix.rowAttribute what rows)

def single : List Float → ModelM Float
  | x :: _ => pure x
  | [] => throw (.lengthMismatch ⟨"attribute values", 1, 0⟩)

def values (vs : List Variable) : ModelM (List Float) := variableAttribute .value vs

def value (v : Variable) : ModelM Float := do single (← values [v])

def reducedCosts (vs : List Variable) : ModelM (List Float) := variableAttribute .reducedCost vs

def reducedCost (v : Variable) : ModelM Float := do single (← reducedCosts [v])

/-- The slacks of several rows: right hand side less activity. -/
def slacks (rows : List Ref) : ModelM (List Float) := rowAttribute .slack rows

def slack (row : Ref) : ModelM Float := do single (← slacks [row])

def duals (rows : List Ref) : ModelM (List Float) := rowAttribute .dual rows

def dual (row : Ref) : ModelM Float := do single (← duals [row])

end LinProg.Model
