/-!
# Solve statuses

An `Outcome` is what a solver program reports; a `Status` is the state of a model, with a stable
integer code.  A code outside the table is kept as it is.
-/

namespace LinProg

/-- What a solver program reports. -/
inductive Outcome where
  | optimal
  | subOptimal
  | infeasible
  | unbounded
  | timeLimit
  | iterationLimit
  | interrupted
  | notSolved
deriving DecidableEq, Repr

namespace Outcome

def label : Outcome → String
  | optimal => "Optimal"
  | subOptimal => "SubOptimal"
  | infeasible => "Infeasible"
  | unbounded => "Unbounded"
  | timeLimit => "TimeLimit"
  | iterationLimit => "IterationLimit"
  | interrupted => "Interrupted"
  | notSolved => "NotSolved"

def all : List Outcome :=
  [optimal, subOptimal, infeasible, unbounded, timeLimit, iterationLimit, interrupted, notSolved]

def ofLabel? (label : String) : Option Outcome := all.find? (·.label = label)

end Outcome

/-- The state of a model. -/
inductive Status where
  | unused
  | loaded
  | optimal
  | infeasible
  | infeasibleOrUnbounded
  | unbounded
  | cutoff
  | iterationLimit
  | nodeLimit
  | timeLimit
  | solutionLimit
  | interrupted
  | numeric
  | suboptimal
  | inProgress
  | unknown (code : Int)
deriving DecidableEq, Repr

namespace Status

/-- The known statuses; the position of a status is its code. -/
def table : List Status :=
  [unused, loaded, optimal, infeasible, infeasibleOrUnbounded, unbounded, cutoff, iterationLimit,
    nodeLimit, timeLimit, solutionLimit, interrupted, numeric, suboptimal, inProgress]

def tryOfCode : Int → Option Status
  | .ofNat n => table[n]?
  | .negSucc _ => none

def ofCode (code : Int) : Status := (tryOfCode code).getD (unknown code)

def code : Status → Int
  | unused => 0
  | loaded => 1
  | optimal => 2
  | infeasible => 3
  | infeasibleOrUnbounded => 4
  | unbounded => 5
  | cutoff => 6
  | iterationLimit => 7
  | nodeLimit => 8
  | timeLimit => 9
  | solutionLimit => 10
  | interrupted => 11
  | numeric => 12
  | suboptimal => 13
  | inProgress => 14
  | unknown code => code

def label : Status → String
  | unused => "Unused"
  | loaded => "Loaded"
  | optimal => "Optimal"
  | infeasible => "Infeasible"
  | infeasibleOrUnbounded => "InfeasibleOrUnbounded"
  | unbounded => "Unbounded"
  | cutoff => "Cutoff"
  | iterationLimit => "IterationLimit"
  | nodeLimit => "NodeLimit"
  | timeLimit => "TimeLimit"
  | solutionLimit => "SolutionLimit"
  | interrupted => "Interrupted"
  | numeric => "Numeric"
  | suboptimal => "Suboptimal"
  | inProgress => "InProgress"
  | unknown _ => "Unknown"

/-- The name of a status, with the code of an unknown one. -/
def display : Status → String
  | unknown code => "Unknown(" ++ toString code ++ ")"
  | status => status.label

/-- Whether the solver may have left variable values behind. -/
def hasSolution : Status → Bool
  | optimal | suboptimal | timeLimit | iterationLimit | nodeLimit | solutionLimit
  | interrupted => true
  | _ => false

def unknownCodeMessage (code : Int) : String := "unknown solver status code " ++ toString code

/-- The state of a model after a solver reported an outcome. -/
def ofOutcome : Outcome → Status
  | .optimal => optimal
  | .subOptimal => suboptimal
  | .infeasible => infeasible
  | .unbounded => unbounded
  | .timeLimit => timeLimit
  | .iterationLimit => iterationLimit
  | .interrupted => interrupted
  | .notSolved => loaded

end Status

end LinProg
