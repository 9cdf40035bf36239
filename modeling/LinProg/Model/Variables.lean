import LinProg.Column
import LinProg.Model.Basic

/-!
# Variables of a model

Adding, changing and reading variables.
-/

namespace LinProg.Model

def checkLengths (check : Except LengthMismatch Unit) : ModelM Unit :=
  match check with
  | .ok () => pure ()
  | .error cause => throw (.lengthMismatch cause)

/-- The handles on new columns, the first of which is at `start`. -/
def handlesOf (model start : Nat) (columns : List MatrixColumn) : List Variable :=
  columns.mapIdx fun i c => ⟨⟨model, start + i⟩, c.lower, c.upper, c.domain, c.name⟩

/-- Adds variables described by parallel arrays. -/
def addVariables (lowers uppers : List Float) (domains : Option (List Domain))
    (names : Option (List String)) : ModelM (List Variable) := do
  let count := lowers.length
  checkLengths (LengthMismatch.check "upper bounds" count uppers.length)
  checkLengths (LengthMismatch.checkOption "types" count domains)
  checkLengths (LengthMismatch.checkOption "names" count names)
  let named := match names with
    | some names => names.map some
    | none => List.replicate count none
  let start ← onMatrix (Matrix.addColumns lowers uppers none domains (some named))
  let m ← get
  let added := handlesOf m.id start (Matrix.columnsOf lowers uppers none domains (some named))
  set { m with handles := m.handles ++ added }
  sync
  return added

def addVariable (lower upper : Float) (domain : Domain) (name : Option String) :
    ModelM Variable := do
  match ← addVariables [lower] [upper] (some [domain]) (name.map ([·])) with
  | v :: _ => return v
  | [] => throw (.lengthMismatch ⟨"variables", 1, 0⟩)

def numVariable (lower upper : Float) (name : Option String) : ModelM Variable :=
  addVariable lower upper .continuous name

def intVariable (lower upper : Float) (name : Option String) : ModelM Variable :=
  addVariable lower upper .integer name

def boolVariable (name : Option String) : ModelM Variable := addVariable 0 1 .binary name

/-- Adds a number of variables that share their bounds and domain. -/
def uniformVariables (count : Nat) (lower upper : Float) (domain : Domain) :
    ModelM (List Variable) :=
  addVariables (List.replicate count lower) (List.replicate count upper)
    (some (List.replicate count domain)) none

def numVariables (count : Nat) (lower upper : Float) : ModelM (List Variable) :=
  uniformVariables count lower upper .continuous

def intVariables (count : Nat) (lower upper : Float) : ModelM (List Variable) :=
  uniformVariables count lower upper .integer

def boolVariables (count : Nat) : ModelM (List Variable) := uniformVariables count 0 1 .binary

/-! ### Columns -/

/-- A column with a coefficient in the current objective. -/
def objectiveColumn (objective : Objective) (c : Float) : ModelM Column := do
  checkObjective objective.model objective.generation
  let m ← get
  return .ofObjective ⟨m.id, m.generation, c⟩

def rowColumn (row : Ref) (c : Float) : ModelM Column := do
  let _ ← checkRow row
  return .ofRow row c

/-- The objective coefficient that a column brings. -/
def columnObjective (column : Column) : ModelM Float := do
  match column.objective with
  | some part =>
    checkObjective part.model part.generation
    return part.coefficient
  | none => return 0

/-- Adds a variable with its coefficients in the objective and in rows. -/
def addWithColumn (column : Column) (lower upper : Float) (domain : Domain)
    (name : Option String) : ModelM Variable := do
  -- all parts are checked before anything changes
  let objective ← columnObjective column
  let memberships ← column.rows.toList.mapM fun (row, c) => do return (← checkRow row, c)
  let index ← onMatrix (Matrix.addColumn ⟨lower, upper, objective, domain, name⟩ memberships)
  let m ← get
  let v : Variable := ⟨⟨m.id, index⟩, lower, upper, domain, name⟩
  set { m with handles := m.handles ++ [v] }
  sync
  return v

/-! ### Changing variables -/

/-- Changes the listed handle of a column. -/
def modifyListed (index : Nat) (f : Variable → Variable) : ModelM Unit :=
  modify fun m => { m with handles := m.handles.modify index f }

/-- Changes the domain of a variable, if its bounds allow it; returns the changed handle. -/
def convertDomain (v : Variable) (domain : Domain) : ModelM Variable := do
  let index ← checkVariable v.ref
  unless domain.acceptsBounds v.lower v.upper do
    throw (.incompatibleDomain index v.lower v.upper domain)
  onMatrix (Matrix.setDomain index domain)
  modifyListed index fun listed => { listed with domain }
  sync
  return { v with domain }

def setVariableName (v : Variable) (name : String) : ModelM Variable := do
  let index ← checkVariable v.ref
  onMatrix (Matrix.setColumnName index name)
  modifyListed index fun listed => { listed with name := some name }
  sync
  return { v with name := some name }

/-! ### Reading variables -/

/-- The bounds of a variable in the flushed matrix. -/
def variableBounds (v : Variable) : ModelM (Float × Float) := do
  let index ← checkVariable v.ref
  let m ← get
  let lower ← lookUp (m.matrix.columnAttribute .lower [index])
  let upper ← lookUp (m.matrix.columnAttribute .upper [index])
  return (lower.headD 0, upper.headD 0)

def variableDomain (v : Variable) : ModelM Domain := do
  let index ← checkVariable v.ref
  let m ← get
  match m.matrix.body.columns[index]? with
  | some c => return c.domain
  | none => throw (.matrix (.indexOutOfRange .column index m.matrix.body.columns.length))

end LinProg.Model
