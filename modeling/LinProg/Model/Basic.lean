import LinProg.Handle
import LinProg.Matrix.Attribute
import LinProg.Params
import LinProg.Solver.Run

/-!
# Models

A model owns a matrix and gives out handles on its columns, rows and objective.  A handle carries the
identity of the model that issued it, and the objective handle also a generation; `checkVariable`,
`checkRow` and `checkObjective` accept the handles of the live model only.
-/

namespace LinProg

/-- What an invalid handle was taken for. -/
inductive HandleKind where
  | column
  | row
  | objective
deriving DecidableEq, Repr

def HandleKind.label : HandleKind → String
  | column => "variable"
  | row => "constraint"
  | objective => "objective"

inductive ModelError where
  | invalidBounds (lower upper : Float)
  | invalidReference (kind : HandleKind) (index : Nat)
  | lengthMismatch (cause : LengthMismatch)
  | invalidParam (cause : InvalidParam)
  | incompatibleDomain (index : Nat) (lower upper : Float) (domain : Domain)
  | matrix (cause : MatrixError)
deriving DecidableEq

def intervalText (lower upper : Float) : String :=
  "[" ++ Number.write lower ++ ", " ++ Number.write upper ++ "]"

def ModelError.message : ModelError → String
  | invalidBounds lower upper =>
    "invalid range bounds " ++ intervalText lower upper ++ ": at least one bound must be finite"
  | invalidReference kind index =>
    kind.label ++ " " ++ toString index ++ " is not registered in the live model"
  | lengthMismatch cause => cause.message
  | invalidParam cause => cause.message
  | incompatibleDomain index lower upper domain =>
    "cannot convert variable " ++ toString index ++ " with bounds " ++ intervalText lower upper ++
      " to " ++ domain.label
  | matrix cause => cause.message

structure Environment where
  solver : Solver
  params : Params
deriving DecidableEq

/-- A model: its identity, its environment, its matrix, a handle for every column, and the number of
objectives installed so far. -/
structure Model where
  id : Nat
  env : Environment
  matrix : Matrix
  handles : List Variable
  generation : Nat
deriving DecidableEq

/-- An operation on a model that may fail, and leaves the model as it got. -/
abbrev ModelM := EStateM ModelError Model

namespace Model

def create (id : Nat) (name : String) (env : Environment) : Model :=
  ⟨id, env, .empty name, [], 0⟩

/-- Carries out an operation on the matrix of a model. -/
def onMatrix {α : Type} (op : MatrixM α) : ModelM α := fun m =>
  match op m.matrix with
  | .ok a x => .ok a { m with matrix := x }
  | .error cause x => .error (.matrix cause) { m with matrix := x }

/-- Looks something up in a matrix, a failure being one of the model. -/
def lookUp {α : Type} (result : Except MatrixError α) : ModelM α :=
  match result with
  | .ok a => pure a
  | .error cause => throw (.matrix cause)

/-- Flushes the matrix, unless updates are to wait. -/
def sync : ModelM Unit := modify fun m =>
  if m.env.params.immediateUpdates then { m with matrix := m.matrix.flush } else m

/-! ### Parameters -/

/-- Sets an integer parameter.  Turning immediate updates on carries out what waits. -/
def setInt (param : IntParam) (value : Int) : ModelM Unit := do
  let m ← get
  match m.env.params.setInt param value with
  | .ok params =>
    set { m with env := { m.env with params } }
    sync
  | .error cause => throw (.invalidParam cause)

def setReal (param : RealParam) (value : Float) : ModelM Unit := do
  let m ← get
  match m.env.params.setReal param value with
  | .ok params => set { m with env := { m.env with params } }
  | .error cause => throw (.invalidParam cause)

/-! ### Checking handles -/

/-- Whether a reference is to a column of the live model. -/
def ownsColumn (m : Model) (ref : Ref) : Bool :=
  ref.model = m.id && decide (ref.index < m.matrix.columnCount)

def ownsRow (m : Model) (ref : Ref) : Bool :=
  ref.model = m.id && decide (ref.index < m.matrix.rowCount)

/-- Whether the objective of the live model is of a given generation. -/
def ownsObjective (m : Model) (model generation : Nat) : Bool :=
  model = m.id && generation = m.generation

/-- The position of a column of the live model. -/
def checkVariable (ref : Ref) : ModelM Nat := do
  if (← get).ownsColumn ref then return ref.index
  else throw (.invalidReference .column ref.index)

def checkRow (ref : Ref) : ModelM Nat := do
  if (← get).ownsRow ref then return ref.index
  else throw (.invalidReference .row ref.index)

/-- Accepts the current objective of the live model. -/
def checkObjective (model generation : Nat) : ModelM Unit := do
  unless (← get).ownsObjective model generation do throw (.invalidReference .objective 0)

/-- The terms of an expression by position, if all its variables are of the live model. -/
def exprTerms (e : Expr) : ModelM (List (Nat × Float)) :=
  e.coefficients.mapM fun (ref, c) => do return (← checkVariable ref, c)

end Model

end LinProg
