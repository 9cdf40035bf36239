import LinProg.Model.Basic
import LinProg.Reconcile

/-!
# Rows of a model

Ranges and plain relations.  A range with two different finite bounds comes with a slack variable,
which stays in its row when the expression is replaced.
-/

namespace LinProg.Model

def addSlack (width : Float) (name : Option String) : ModelM Variable := do
  let index ← onMatrix (Matrix.addColumns [0] [width] none none (name.map fun n => [some n]))
  let m ← get
  let v : Variable := ⟨⟨m.id, index⟩, 0, width, .continuous, name⟩
  set { m with handles := m.handles ++ [v] }
  return v

def addSlack? (plan : RowPlan) (name : Option String) : ModelM (Option Variable) := do
  match plan.slackUpper? with
  | some width => return some (← addSlack width (name.map (· ++ "_slack")))
  | none => return none

def withSlack (terms : List (Nat × Float)) : Option Variable → List (Nat × Float)
  | some slack => terms ++ [(slack.ref.index, -1)]
  | none => terms

/-- Adds `lower ≤ expr ≤ upper`. -/
def addRange (lower : Float) (expr : Expr) (upper : Float) (name : Option String) :
    ModelM Range := do
  let some plan := RowPlan.ofBounds? lower upper | throw (.invalidBounds lower upper)
  let terms ← exprTerms expr
  let slack ← addSlack? plan name
  let row ← onMatrix
    (Matrix.addRow (withSlack terms slack) plan.relation (plan.rhs expr.constant) name)
  sync
  return ⟨⟨(← get).id, row⟩, lower, upper, name, expr, slack⟩

def addEq (expr : Expr) (value : Float) (name : Option String) : ModelM Range :=
  addRange value expr value name

def addLe (expr : Expr) (upper : Float) (name : Option String) : ModelM Range :=
  addRange (-Number.infinity) expr upper name

def addGe (expr : Expr) (lower : Float) (name : Option String) : ModelM Range :=
  addRange lower expr Number.infinity name

def addEmptyRange (lower upper : Float) (name : Option String) : ModelM Range :=
  addRange lower .zero upper name

/-- Adds a relation between two expressions.  Everything moves to the left but the constant. -/
def addRelation (left : Expr) (relation : Relation) (right : Expr) (name : Option String) :
    ModelM Constraint := do
  let difference := left.sub right
  let terms ← exprTerms difference
  let row ← onMatrix (Matrix.addRow terms relation (-difference.constant) name)
  sync
  return ⟨⟨(← get).id, row⟩, relation, name⟩

/-- The entries that a range with a new expression is to have. -/
def desiredEntries (range : Range) (expr : Expr) : ModelM (List (Nat × Float)) := do
  let terms ← exprTerms expr
  match range.slack with
  | some slack => return terms ++ [(← checkVariable slack.ref, -1)]
  | none => return terms

/-- Sets the coefficients of a row that a delta lists, unless it changes nothing. -/
def applyDelta (row : Nat) (delta : RowDelta) : ModelM Unit := do
  unless delta.isNoop do
    onMatrix (Matrix.changeCoefficients (List.replicate delta.columns.length row)
      delta.columns delta.values)

/-- Sets the right hand side of a row, unless it is there already. -/
def updateRhs (row : Nat) (rhs : Float) : ModelM Unit := do
  let m ← get
  let installed ← lookUp (m.matrix.rowAttribute .rhs [row])
  if installed.headD 0 != rhs then onMatrix (Matrix.setRhs row rhs)

def replaceExpression (range : Range) (expr : Expr) : ModelM Range := do
  let row ← checkRow range.ref
  let desired ← desiredEntries range expr
  -- the row is compared as it is once the queue is carried out
  onMatrix Matrix.flushM
  let m ← get
  let installed ← lookUp (m.matrix.row row)
  applyDelta row (.between installed desired)
  updateRhs row (range.plan.rhs expr.constant)
  sync
  return { range with expr }

def setRangeName (range : Range) (name : String) : ModelM Range := do
  let row ← checkRow range.ref
  onMatrix (Matrix.setRowName row name)
  sync
  return { range with name := some name }

/-- The net coefficients of a row, after a flush. -/
def rowCoefficients (row : Ref) : ModelM (Sparse Nat) := do
  let index ← checkRow row
  onMatrix Matrix.flushM
  let m ← get
  return netCoefficients (← lookUp (m.matrix.row index))

end LinProg.Model
