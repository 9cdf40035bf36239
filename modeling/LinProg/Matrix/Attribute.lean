import LinProg.Matrix.Basic

/-!
# Reading a matrix

Only what has been flushed can be read.  Solver values are available while they belong to the body
as it is.
-/

namespace LinProg

/-- What can be asked about a column. -/
inductive ColumnAttribute where
  | value
  | reducedCost
  | lower
  | upper
  | objective
deriving DecidableEq, Repr

def ColumnAttribute.label : ColumnAttribute → String
  | value => "X"
  | reducedCost => "RC"
  | lower => "LB"
  | upper => "UB"
  | objective => "Obj"

def ColumnAttribute.ofLabel? (label : String) : Option ColumnAttribute :=
  [value, reducedCost, lower, upper, objective].find? (·.label = label)

inductive RowAttribute where
  | dual
  | slack
  | rhs
deriving DecidableEq, Repr

def RowAttribute.label : RowAttribute → String
  | dual => "Pi"
  | slack => "Slack"
  | rhs => "RHS"

namespace Matrix

/-- The entries of a flushed row, as listed. -/
def row (m : Matrix) (index : Nat) : Except MatrixError (List (Nat × Float)) :=
  match m.body.rows[index]? with
  | some r => .ok r.entries
  | none => .error (.indexOutOfRange .row index m.body.rows.length)

def objectiveValue (m : Matrix) : Except MatrixError Float :=
  match m.values with
  | some v => .ok v.objective
  | none => .error (.unavailable "ObjVal")

/-- An attribute of all flushed columns, if it is available. -/
def columnAttribute? (m : Matrix) : ColumnAttribute → Option (List Float)
  | .value => m.values.map (·.columns)
  | .reducedCost => m.values.bind (·.reducedCosts)
  | .lower => some (m.body.columns.map (·.lower))
  | .upper => some (m.body.columns.map (·.upper))
  | .objective => some (m.body.columns.map (·.objective))

def rowAttribute? (m : Matrix) : RowAttribute → Option (List Float)
  | .dual => m.values.bind (·.duals)
  | .slack => m.values.map (·.slacks)
  | .rhs => some (m.body.rows.map (·.rhs))

/-- Picks values by position, each of which has to be below the count. -/
def pick (axis : Axis) (count : Nat) (values : List Float) (indices : List Nat) :
    Except MatrixError (List Float) :=
  indices.mapM fun i =>
    if i < count then .ok (values.getD i 0) else .error (.indexOutOfRange axis i count)

/-- An attribute of several columns.  Whether it is available is looked at first. -/
def columnAttribute (m : Matrix) (what : ColumnAttribute) (columns : List Nat) :
    Except MatrixError (List Float) :=
  match m.columnAttribute? what with
  | some values => pick .column m.body.columns.length values columns
  | none => .error (.unavailable what.label)

def rowAttribute (m : Matrix) (what : RowAttribute) (rows : List Nat) :
    Except MatrixError (List Float) :=
  match m.rowAttribute? what with
  | some values => pick .row m.body.rows.length values rows
  | none => .error (.unavailable what.label)

end Matrix

end LinProg
