import LinProg.Matrix.Basic
import LinProg.Matrix.View
import LinProg.Solver.Run

/-!
# Solving a matrix

The flushed body is solved under its view names, and the values found are put back in the order of
its columns and rows.
-/

namespace LinProg

namespace Body

/-- The activity of a row: the sum of its entries times the values of their columns. -/
def activity (entries : List (Nat × Float)) (values : List Float) : Float :=
  Number.sum (entries.map fun (column, a) => a * values.getD column 0)

/-- The values that a solution has for the body.  A name that the solution does not have gets zero;
reduced costs and duals that the solver did not report stay absent. -/
def values (b : Body) (s : Solution) : Values :=
  let names := b.viewNames
  let columns := names.columns.map s.results.getD
  { columns
    objective := b.constant +
      Number.sum ((b.columns.zip columns).map fun (c, x) => c.objective * x)
    reducedCosts := if s.reducedCosts.isEmpty then none
      else some (names.columns.map s.reducedCosts.getD)
    duals := if s.duals.isEmpty then none else some (names.rows.map s.duals.getD)
    slacks := b.rows.map fun r => r.rhs - activity r.entries columns }

end Body

namespace Matrix

/-- Takes over what a solver says about the flushed body. -/
def store (m : Matrix) (s : Solution) : Matrix :=
  let status := Status.ofOutcome s.outcome
  { m with status, values := if status.hasSolution then some (m.body.values s) else none }

/-- Flushes and solves.  After a failure the matrix is flushed and otherwise as it was. -/
def optimize (m : Matrix) (solver : Solver) (params : Params) (host : Host) :
    Except MatrixError Status × Matrix × Host :=
  let m := m.flush
  match solver.run (m.body.problem m.name) params host with
  | .ok s host => (.ok (m.store s).status, m.store s, host)
  | .error cause host => (.error (.solver cause), m, host)

end Matrix

end LinProg
