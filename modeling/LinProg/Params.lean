import LinProg.Number.Text

/-!
# Solver parameters

Integer and real parameters are kept apart.  Setting a value outside the domain of its parameter
fails and leaves the table alone; the accessors hide the values that mean "not set".
-/

namespace LinProg

inductive IntParam where
  | method
  | threads
  | updateMode
deriving DecidableEq, Repr

inductive RealParam where
  | timeLimit
  | intFeasTol
  | mipGap
deriving DecidableEq, Repr

/-- A value outside the domain of its parameter, as text. -/
structure InvalidParam where
  parameter : String
  value : String
deriving DecidableEq, Repr

namespace InvalidParam

def message (e : InvalidParam) : String :=
  "invalid value " ++ e.value ++ " for parameter " ++ e.parameter

end InvalidParam

namespace IntParam

def label : IntParam → String
  | method => "Method"
  | threads => "Threads"
  | updateMode => "UpdateMode"

def ofLabel? (label : String) : Option IntParam :=
  [method, threads, updateMode].find? (·.label = label)

/-- Whether a value is in the domain of the parameter: a method is automatic (-1), primal (0), dual
(1) or interior (2), a thread count is not negative, and the update mode is 0 or 1. -/
def accepts (value : Int) : IntParam → Bool
  | method => decide (-1 ≤ value ∧ value ≤ 2)
  | threads => decide (0 ≤ value)
  | updateMode => decide (value = 0 ∨ value = 1)

end IntParam

namespace RealParam

def label : RealParam → String
  | timeLimit => "TimeLimit"
  | intFeasTol => "IntFeasTol"
  | mipGap => "MIPGap"

def ofLabel? (label : String) : Option RealParam :=
  [timeLimit, intFeasTol, mipGap].find? (·.label = label)

/-- Whether a value is in the domain of the parameter: a limit in seconds that may be infinite, a
tolerance between 1e-9 and 0.1, and a finite gap. -/
def accepts (value : Float) : RealParam → Bool
  | timeLimit => decide (0 ≤ value)
  | intFeasTol => decide (1e-9 ≤ value) && decide (value ≤ 1e-1)
  | mipGap => decide (0 ≤ value) && value.isFinite

end RealParam

structure Params where
  method : Int := -1
  threads : Int := 0
  updateMode : Int := 1
  timeLimit : Float := Number.infinity
  intFeasTol : Float := 1e-5
  mipGap : Float := 1e-4
deriving DecidableEq

namespace Params

def default : Params := {}

def getInt (p : Params) : IntParam → Int
  | .method => p.method
  | .threads => p.threads
  | .updateMode => p.updateMode

def getReal (p : Params) : RealParam → Float
  | .timeLimit => p.timeLimit
  | .intFeasTol => p.intFeasTol
  | .mipGap => p.mipGap

def setInt (p : Params) (param : IntParam) (value : Int) : Except InvalidParam Params :=
  if param.accepts value then
    .ok <| match param with
      | .method => { p with method := value }
      | .threads => { p with threads := value }
      | .updateMode => { p with updateMode := value }
  else .error ⟨param.label, toString value⟩

def setReal (p : Params) (param : RealParam) (value : Float) : Except InvalidParam Params :=
  if param.accepts value then
    .ok <| match param with
      | .timeLimit => { p with timeLimit := value }
      | .intFeasTol => { p with intFeasTol := value }
      | .mipGap => { p with mipGap := value }
  else .error ⟨param.label, Number.write value⟩

/-- The time limit in seconds, if there is one. -/
def timeLimit? (p : Params) : Option Float :=
  if p.timeLimit.isFinite then some p.timeLimit else none

/-- The number of threads, if the solver is not to choose it. -/
def threads? (p : Params) : Option Int :=
  if 0 < p.threads then some p.threads else none

/-- The method, if it is not automatic. -/
def method? (p : Params) : Option Int :=
  if p.method ≠ -1 then some p.method else none

/-- Whether modifications take effect at once. -/
def immediateUpdates (p : Params) : Bool := p.updateMode = 1

/-- The gap, if it is not the usual one. -/
def mipGap? (p : Params) : Option Float :=
  if p.mipGap != default.mipGap then some p.mipGap else none

def intFeasTol? (p : Params) : Option Float :=
  if p.intFeasTol != default.intFeasTol then some p.intFeasTol else none

end Params

end LinProg
