import LinProg.LengthMismatch
import LinProg.Lp.Document
import LinProg.Matrix.Body
import LinProg.Solver.Host
import LinProg.Status

/-!
# Matrices

A matrix is a body with a queue of edits that `flush` carries out.  Positions of new columns and rows
are handed out when the edit is queued, so that later edits can refer to them at once; every edit is
checked against those counts.
-/

namespace LinProg

/-- Values that a solver found for the body of a matrix. -/
structure Values where
  objective : Float
  columns : List Float
  reducedCosts : Option (List Float)
  duals : Option (List Float)
  slacks : List Float
deriving DecidableEq

/-- Whether an index is that of a column or of a row. -/
inductive Axis where
  | column
  | row
deriving DecidableEq, Repr

def Axis.label : Axis → String
  | column => "column"
  | row => "row"

inductive MatrixError where
  | indexOutOfRange (axis : Axis) (index count : Nat)
  | lengthMismatch (cause : LengthMismatch)
  | unavailable (what : String)
  | unsupportedFormat (path : String)
  | parse (cause : Lp.ReadError)
  | file (cause : FileError)
  | solver (cause : SolverError)
deriving DecidableEq, Repr

def MatrixError.message : MatrixError → String
  | indexOutOfRange axis index count =>
    axis.label ++ " index " ++ toString index ++ " is out of range (" ++ toString count ++
      " registered)"
  | lengthMismatch cause => cause.message
  | unavailable what => "attribute " ++ what ++ " is not available"
  | unsupportedFormat path => "unsupported model file format: " ++ path
  | parse cause => cause.message
  | file cause => cause.message
  | solver cause => cause.message

/-- A body, the edits that wait for it, the counts of columns and rows with those edits, and what the
last solve left. -/
structure Matrix where
  name : String
  body : Body
  queue : List Edit
  columnCount : Nat
  rowCount : Nat
  status : Status
  values : Option Values
deriving DecidableEq

/-- An operation on a matrix that may fail, and leaves the matrix as it got. -/
abbrev MatrixM := EStateM MatrixError Matrix

namespace Matrix

def empty (name : String) : Matrix := ⟨name, .empty, [], 0, 0, .loaded, none⟩

def defaultName : String := "model"

def isPending (m : Matrix) : Bool := !m.queue.isEmpty

/-- Carries out the queued edits.  Unless there are none, what a solve left is dropped. -/
def flush (m : Matrix) : Matrix :=
  if m.queue.isEmpty then m
  else { m with body := m.body.applyAll m.queue, queue := [], status := .loaded, values := none }

def flushM : MatrixM Unit := modify flush

/-! ### Checks -/

/-- Accepts the positions of columns, queued ones included. -/
def checkColumn (column : Nat) : MatrixM Unit := do
  let m ← get
  unless column < m.columnCount do throw (.indexOutOfRange .column column m.columnCount)

def checkRow (row : Nat) : MatrixM Unit := do
  let m ← get
  unless row < m.rowCount do throw (.indexOutOfRange .row row m.rowCount)

def checkTerms (terms : List (Nat × Float)) : MatrixM Unit :=
  terms.forM fun t => checkColumn t.1

def checkLengths (check : Except LengthMismatch Unit) : MatrixM Unit :=
  match check with
  | .ok () => pure ()
  | .error cause => throw (.lengthMismatch cause)

/-! ### Queueing edits -/

def push (e : Edit) : MatrixM Unit := modify fun m => { m with queue := m.queue ++ [e] }

/-- The columns that parallel arrays describe. -/
def columnsOf (lowers uppers : List Float) (objectives : Option (List Float))
    (domains : Option (List Domain)) (names : Option (List (Option String))) :
    List MatrixColumn :=
  (lowers.zip uppers).mapIdx fun i (lower, upper) =>
    { lower, upper
      objective := (objectives.bind (·[i]?)).getD 0
      domain := (domains.bind (·[i]?)).getD .continuous
      name := (names.bind (·[i]?)).getD none }

/-- Adds columns described by parallel arrays; returns the position of the first. -/
def addColumns (lowers uppers : List Float) (objectives : Option (List Float))
    (domains : Option (List Domain)) (names : Option (List (Option String))) : MatrixM Nat := do
  let count := lowers.length
  checkLengths (LengthMismatch.check "upper bounds" count uppers.length)
  checkLengths (LengthMismatch.checkOption "objective coefficients" count objectives)
  checkLengths (LengthMismatch.checkOption "types" count domains)
  checkLengths (LengthMismatch.checkOption "names" count names)
  let start := (← get).columnCount
  push (.addColumns (columnsOf lowers uppers objectives domains names))
  modify fun m => { m with columnCount := m.columnCount + count }
  return start

/-- Adds a column with its coefficients in rows; returns its position. -/
def addColumn (column : MatrixColumn) (memberships : List (Nat × Float)) : MatrixM Nat := do
  memberships.forM fun t => checkRow t.1
  let index := (← get).columnCount
  push (.addColumn column memberships)
  modify fun m => { m with columnCount := m.columnCount + 1 }
  return index

def addRow (terms : List (Nat × Float)) (relation : Relation) (rhs : Float)
    (name : Option String) : MatrixM Nat := do
  checkTerms terms
  let index := (← get).rowCount
  push (.addRow ⟨terms, relation, rhs, name⟩)
  modify fun m => { m with rowCount := m.rowCount + 1 }
  return index

def setObjective (terms : List (Nat × Float)) (constant : Float) (sense : Sense) :
    MatrixM Unit := do
  checkTerms terms
  push (.setObjective terms constant sense)

/-- Sets coefficients given as parallel arrays, in one batch. -/
def changeCoefficients (rows columns : List Nat) (values : List Float) : MatrixM Unit := do
  checkLengths (LengthMismatch.check "columns" rows.length columns.length)
  checkLengths (LengthMismatch.check "values" rows.length values.length)
  let batch := rows.zip (columns.zip values)
  batch.forM fun (row, column, _) => do
    checkRow row
    checkColumn column
  push (.changeCoefficients batch)

def setRhs (row : Nat) (value : Float) : MatrixM Unit := do
  checkRow row
  push (.setRhs row value)

def setObjectiveCoefficient (column : Nat) (value : Float) : MatrixM Unit := do
  checkColumn column
  push (.setObjectiveCoefficient column value)

/-- Changes the domain of a column.  Its bounds stay. -/
def setDomain (column : Nat) (domain : Domain) : MatrixM Unit := do
  checkColumn column
  push (.setDomain column domain)

def setColumnName (column : Nat) (name : String) : MatrixM Unit := do
  checkColumn column
  push (.setColumnName column name)

def setRowName (row : Nat) (name : String) : MatrixM Unit := do
  checkRow row
  push (.setRowName row name)

end Matrix

end LinProg
