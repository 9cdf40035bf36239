import LinProg.Lp.Problem
import LinProg.Matrix.Body
import LinProg.NamePool

/-!
# The problem of a body

A body is written and solved under unique names: columns first, then rows, with the name of the
objective taken beforehand.  Columns and rows without a name are called by their position.
-/

namespace LinProg

/-- The names under which a body is written. -/
structure ViewNames where
  columns : List String
  rows : List String
deriving DecidableEq, Repr

namespace Body

/-- The name that each column asks for. -/
def wantedColumnNames (b : Body) : List String :=
  b.columns.mapIdx fun i c => c.name.getD ("x" ++ toString i)

def wantedRowNames (b : Body) : List String :=
  b.rows.mapIdx fun i r => r.name.getD ("c" ++ toString i)

def viewNames (b : Body) : ViewNames :=
  let (columns, pool) := (NamePool.empty.reserve "obj").claimAll b.wantedColumnNames
  ⟨columns, (pool.claimAll b.wantedRowNames).1⟩

/-- The objective terms, columns with coefficient zero left out. -/
def objectiveTerms (b : Body) : List (Nat × Float) :=
  (b.columns.mapIdx fun i c => (i, c.objective)).filter fun t => t.2 != 0

/-- The name of a problem: letters, digits and the underscore of the name of the model. -/
def problemName (name : String) : String :=
  let kept := name.toList.filter NamePool.isStemChar
  if kept = [] then "model" else String.ofList kept

def problem (b : Body) (name : String) : Problem where
  name := problemName name
  sense := b.sense
  columns := List.zipWith (fun c name => ⟨name, c.domain, c.lower, c.upper⟩)
    b.columns b.viewNames.columns
  objective := b.objectiveTerms
  rows := List.zipWith (fun r name => ⟨name, r.entries, r.relation, r.rhs⟩)
    b.rows b.viewNames.rows

end Body

end LinProg
