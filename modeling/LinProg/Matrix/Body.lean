import LinProg.Relation
import LinProg.Variable

/-!
# The body of a matrix

Columns, sparse rows and an objective, as a solver is to see them.  An edit changes a body; edits
refer to columns and rows by position.
-/

namespace LinProg

structure MatrixColumn where
  lower : Float
  upper : Float
  objective : Float
  domain : Domain
  name : Option String
deriving DecidableEq

/-- A row.  A column may be listed more than once; its net coefficient is the sum. -/
structure MatrixRow where
  entries : List (Nat × Float)
  relation : Relation
  rhs : Float
  name : Option String
deriving DecidableEq

/-- The content of a matrix. -/
structure Body where
  columns : List MatrixColumn
  rows : List MatrixRow
  sense : Sense
  constant : Float
deriving DecidableEq

inductive Edit where
  | addColumns (columns : List MatrixColumn)
  | addColumn (column : MatrixColumn) (memberships : List (Nat × Float))
  | addRow (row : MatrixRow)
  | setObjective (terms : List (Nat × Float)) (constant : Float) (sense : Sense)
  | changeCoefficients (batch : List (Nat × Nat × Float))
  | setRhs (row : Nat) (value : Float)
  | setObjectiveCoefficient (column : Nat) (value : Float)
  | setDomain (column : Nat) (domain : Domain)
  | setColumnName (column : Nat) (name : String)
  | setRowName (row : Nat) (name : String)
deriving DecidableEq

/-- Sets the coefficient of a column in a list of entries.  The first entry of the column takes the
value and later ones go; a new column is listed last. -/
def setEntry (column : Nat) (value : Float) : List (Nat × Float) → List (Nat × Float)
  | [] => [(column, value)]
  | (c, x) :: rest =>
    if c = column then (c, value) :: rest.filter (·.1 ≠ column)
    else (c, x) :: setEntry column value rest

namespace MatrixRow

/-- Lists one more entry. -/
def push (row : MatrixRow) (column : Nat) (value : Float) : MatrixRow :=
  { row with entries := row.entries ++ [(column, value)] }

end MatrixRow

namespace Body

def empty : Body := ⟨[], [], .minimize, 0⟩

def modifyColumn (b : Body) (column : Nat) (f : MatrixColumn → MatrixColumn) : Body :=
  { b with columns := b.columns.modify column f }

def modifyRow (b : Body) (row : Nat) (f : MatrixRow → MatrixRow) : Body :=
  { b with rows := b.rows.modify row f }

/-- Adds a column with its coefficients in rows, each of which gets an entry at its end. -/
def addColumn (b : Body) (column : MatrixColumn) (memberships : List (Nat × Float)) : Body :=
  let index := b.columns.length
  memberships.foldl (fun b (row, value) => b.modifyRow row fun r => r.push index value)
    { b with columns := b.columns ++ [column] }

/-- Adds to objective coefficients, term by term. -/
def addToObjective (b : Body) (terms : List (Nat × Float)) : Body :=
  terms.foldl (fun b (column, value) =>
    b.modifyColumn column fun c => { c with objective := c.objective + value }) b

/-- Replaces the whole objective: every coefficient starts from zero. -/
def setObjective (b : Body) (terms : List (Nat × Float)) (constant : Float) (sense : Sense) :
    Body :=
  let cleared : Body := { b with columns := b.columns.map fun c => { c with objective := 0 } }
  let summed := cleared.addToObjective terms
  { summed with constant, sense }

def changeCoefficients (b : Body) (batch : List (Nat × Nat × Float)) : Body :=
  batch.foldl (fun b (row, column, value) =>
    b.modifyRow row fun r => { r with entries := setEntry column value r.entries }) b

def apply (b : Body) : Edit → Body
  | .addColumns columns => { b with columns := b.columns ++ columns }
  | .addColumn column memberships => b.addColumn column memberships
  | .addRow row => { b with rows := b.rows ++ [row] }
  | .setObjective terms constant sense => b.setObjective terms constant sense
  | .changeCoefficients batch => b.changeCoefficients batch
  | .setRhs row value => b.modifyRow row fun r => { r with rhs := value }
  | .setObjectiveCoefficient column value =>
    b.modifyColumn column fun c => { c with objective := value }
  | .setDomain column domain => b.modifyColumn column fun c => { c with domain }
  | .setColumnName column name => b.modifyColumn column fun c => { c with name := some name }
  | .setRowName row name => b.modifyRow row fun r => { r with name := some name }

def applyAll (b : Body) (edits : List Edit) : Body := edits.foldl apply b

end Body

end LinProg
