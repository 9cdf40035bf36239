import LinProg.Workspace

/-!
# Calls on a model

What a program can ask of one model of a workspace, as data, and what happens then: `Call.run`.  A
call that has a shorter form with fixed arguments stands for that form as well.  Between two calls
others may use the workspace: they leave other files, and draw identities.
-/

namespace LinProg

/-- A workspace with one of its models. -/
structure Session where
  workspace : Workspace
  model : Model

inductive Answer where
  | done
  | failed (cause : ModelError)
  | handles (vs : List Variable)
  | handle (v : Variable)
  | column (column : Column)
  | range (range : Range)
  | constraint (constraint : Constraint)
  | objective (objective : Objective)
  | entries (entries : List (Nat × Float))
  | net (net : Sparse Nat)
  | bounds (lower upper : Float)
  | domain (domain : Domain)
  | status (status : Status)
  | numbers (xs : List Float)
  | counts (columns rows : Nat)
  | native (m : Matrix)
  | solved (result : Except ModelError Bool) (launches : List Launch)

/-- What can be asked of a model by itself. -/
inductive Request where
  | setInt (param : IntParam) (value : Int)
  | setReal (param : RealParam) (value : Float)
  | addVariables (lowers uppers : List Float) (domains : Option (List Domain))
      (names : Option (List String))
  | addVariable (lower upper : Float) (domain : Domain) (name : Option String)
  | objectiveColumn (objective : Objective) (c : Float)
  | rowColumn (row : Ref) (c : Float)
  | addWithColumn (column : Column) (lower upper : Float) (domain : Domain) (name : Option String)
  | convertDomain (v : Variable) (domain : Domain)
  | setVariableName (v : Variable) (name : String)
  | handles
  | counts
  | variableBounds (v : Variable)
  | variableDomain (v : Variable)
  | addRange (lower : Float) (expr : Expr) (upper : Float) (name : Option String)
  | addRelation (left : Expr) (relation : Relation) (right : Expr) (name : Option String)
  | replaceExpression (range : Range) (expr : Expr)
  | setRangeName (range : Range) (name : String)
  | rowCoefficients (row : Ref)
  | addObjective (expr : Expr) (sense : Sense)
  | replaceObjective (objective : Objective) (expr : Expr)
  | setLinearCoefficient (objective : Objective) (v : Variable) (c : Float)
  | objectiveCoefficients
  | status
  | objectiveValue
  | variableAttribute (what : ColumnAttribute) (vs : List Variable)
  | rowAttribute (what : RowAttribute) (rows : List Ref)
  | native

namespace Request

def carryOut : Request → ModelM Answer
  | setInt param value => do
    Model.setInt param value
    return .done
  | setReal param value => do
    Model.setReal param value
    return .done
  | addVariables lowers uppers domains names =>
    return .handles (← Model.addVariables lowers uppers domains names)
  | addVariable lower upper domain name =>
    return .handle (← Model.addVariable lower upper domain name)
  | objectiveColumn objective c => return .column (← Model.objectiveColumn objective c)
  | rowColumn row c => return .column (← Model.rowColumn row c)
  | addWithColumn column lower upper domain name =>
    return .handle (← Model.addWithColumn column lower upper domain name)
  | convertDomain v domain => return .handle (← Model.convertDomain v domain)
  | setVariableName v name => return .handle (← Model.setVariableName v name)
  | handles => return .handles (← get).handles
  | counts => return .counts (← get).matrix.columnCount (← get).matrix.rowCount
  | variableBounds v => do
    let (lower, upper) ← Model.variableBounds v
    return .bounds lower upper
  | variableDomain v => return .domain (← Model.variableDomain v)
  | addRange lower expr upper name => return .range (← Model.addRange lower expr upper name)
  | addRelation left relation right name =>
    return .constraint (← Model.addRelation left relation right name)
  | replaceExpression range expr => return .range (← Model.replaceExpression range expr)
  | setRangeName range name => return .range (← Model.setRangeName range name)
  | rowCoefficients row => return .net (← Model.rowCoefficients row)
  | addObjective expr sense => return .objective (← Model.addObjective expr sense)
  | replaceObjective objective expr =>
    return .objective (← Model.replaceObjective objective expr)
  | setLinearCoefficient objective v c =>
    return .objective (← Model.setLinearCoefficient objective v c)
  | objectiveCoefficients => return .entries (← Model.objectiveCoefficients)
  | status => return .status (← get).matrix.status
  | objectiveValue => return .numbers [← Model.objectiveValue]
  | variableAttribute what vs => return .numbers (← Model.variableAttribute what vs)
  | rowAttribute what rows => return .numbers (← Model.rowAttribute what rows)
  | native => return .native (← get).matrix

/-- Whether the answer shows flushed columns and rows, the status or a solution, without a flush
before. -/
def readsFlushed : Request → Bool
  | variableBounds _ | variableDomain _ | status | objectiveValue | variableAttribute .. |
    rowAttribute .. | native => true
  | _ => false

end Request

/-- What can be asked of a session. -/
inductive Call where
  | request (r : Request)
  /-- A solve with some programs installed. -/
  | solve (installed : List (String × List Response))
  | exportModel (path : String)
  | importModel (path : String)
  /-- What others do meanwhile: they leave a disk, and draw some identities. -/
  | others (disk : Disk) (drawn : Nat)

namespace Call

def answerOf : Except ModelError Unit → Answer
  | .ok () => .done
  | .error cause => .failed cause

/-- Carries out a call; returns its answer and the session after it. -/
def run : Call → Session → Answer × Session
  | request r, s =>
    match r.carryOut s.model with
    | .ok a model => (a, { s with model })
    | .error cause model => (.failed cause, { s with model })
  | solve installed, s =>
    let (result, model, host) := s.model.solve (s.workspace.host installed)
    (.solved result host.launches, ⟨s.workspace.adopt host, model⟩)
  | exportModel path, s =>
    let (result, model, workspace) := s.workspace.exportModel path s.model
    (answerOf result, ⟨workspace, model⟩)
  | importModel path, s =>
    let (result, model, workspace) := s.workspace.importModel path s.model
    (answerOf result, ⟨workspace, model⟩)
  | others disk drawn, s => (.done, { s with workspace := ⟨disk, s.workspace.nextId + drawn⟩ })

end Call

namespace Session

/-- The answer of every call of a list, with the session after it. -/
def trace : List Call → Session → List (Answer × Session)
  | [], _ => []
  | call :: calls, s => call.run s :: trace calls (call.run s).2

/-- The session after a list of calls. -/
def after (calls : List Call) (s : Session) : Session :=
  calls.foldl (fun s call => (call.run s).2) s

end Session

end LinProg
