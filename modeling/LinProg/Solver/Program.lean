import LinProg.Params
import LinProg.Report.Cbc
import LinProg.Report.Cplex
import LinProg.Report.Glpk
import LinProg.Report.Gurobi

/-!
# Solver programs

Each program has its own command line, its own solution file and, for some, messages on the standard
output that tell the outcome.
-/

namespace LinProg

/-- The programs whose command line and solution file are known. -/
inductive ProgramKind where
  | cbc
  | glpk
  | gurobi
  | cplex
deriving DecidableEq, Repr

namespace ProgramKind

def command : ProgramKind → String
  | cbc => "cbc"
  | glpk => "glpsol"
  | gurobi => "gurobi_cl"
  | cplex => "cplex"

/-- The name to display; one program has none. -/
def displayName? : ProgramKind → Option String
  | cbc => some "Cbc"
  | glpk => some "Glpk"
  | gurobi => some "Gurobi"
  | cplex => none

/-- The extension that the program insists on for its solution file. -/
def solutionSuffix? : ProgramKind → Option String
  | cplex => some ".sol"
  | _ => none

end ProgramKind

/-- A solver program with the name of its executable and, if it is not to write to a fresh
file, its solution file. -/
structure Program where
  kind : ProgramKind
  command : String
  solutionFile : Option String
deriving DecidableEq, Repr

namespace Program

def ofKind (kind : ProgramKind) : Program := ⟨kind, kind.command, none⟩

def withCommand (p : Program) (command : String) : Program := { p with command }

/-- The program with a solution file of its own, where it takes one. -/
def withSolutionFile (p : Program) (path : String) : Program :=
  match p.kind with
  | .cbc | .glpk => { p with solutionFile := some path }
  | .gurobi | .cplex => p

end Program

/-! ### Command lines -/

namespace CommandLine

/-- An option and its value as two words, absent without a value. -/
def twoWords (option : String) : Option String → List String
  | some value => [option, value]
  | none => []

/-- An option and its value as one word, absent without a value. -/
def oneWord (before : String) : Option String → List String
  | some value => [before ++ value]
  | none => []

/-- The options of Cbc stand between the problem and the solution file. -/
def cbc (problem solution : String) (params : Params) : List String :=
  [problem] ++
    twoWords "seconds" (params.timeLimit?.map Number.write) ++
    twoWords "threads" (params.threads?.map toString) ++
    twoWords "ratioGap" (params.mipGap?.map Number.write) ++
    twoWords "integerTolerance" (params.intFeasTol?.map Number.write) ++
    ["printingOptions", "all", "solve", "solution", solution]

/-- A time limit in whole seconds, rounded up; what exceeds a machine word becomes the largest
one. -/
def wholeSeconds (limit : Float) : Nat := min (Binary.ofFloat limit).ceil (UInt64.size - 1)

def glpkMethod : Option Int → List String
  | some 0 => ["--primal"]
  | some 1 => ["--dual"]
  | some 2 => ["--interior"]
  | _ => []

/-- The options of glpsol stand between the problem and the solution file. -/
def glpk (problem solution : String) (params : Params) : List String :=
  ["--lp", problem] ++
    twoWords "--tmlim" (params.timeLimit?.map fun limit => toString (wholeSeconds limit)) ++
    twoWords "--mipgap" (params.mipGap?.map Number.write) ++
    glpkMethod params.method? ++
    ["-o", solution]

/-- The settings of Gurobi stand between the solution file and the problem. -/
def gurobi (problem solution : String) (params : Params) : List String :=
  ["ResultFile=" ++ solution] ++
    oneWord "TimeLimit=" (params.timeLimit?.map Number.write) ++
    oneWord "Threads=" (params.threads?.map toString) ++
    oneWord "Method=" (params.method?.map toString) ++
    oneWord "MIPGap=" (params.mipGap?.map Number.write) ++
    oneWord "IntFeasTol=" (params.intFeasTol?.map Number.write) ++
    [problem]

/-- Cplex takes one command per word. -/
def cplex (problem solution : String) (params : Params) : List String :=
  ["-c", "READ \"" ++ problem ++ "\""] ++
    oneWord "set timelimit " (params.timeLimit?.map Number.write) ++
    oneWord "set threads " (params.threads?.map toString) ++
    ["optimize", "WRITE \"" ++ solution ++ "\""]

end CommandLine

namespace Program

/-- The words after the name of the executable. -/
def arguments (p : Program) (problem solution : String) (params : Params) : List String :=
  match p.kind with
  | .cbc => CommandLine.cbc problem solution params
  | .glpk => CommandLine.glpk problem solution params
  | .gurobi => CommandLine.gurobi problem solution params
  | .cplex => CommandLine.cplex problem solution params

/-! ### What a run leaves behind -/

/-- Whether a text occurs in the raw output of a program. -/
def mentions (output : ByteArray) (text : String) : Bool :=
  Text.occurs text.toUTF8.toList output.toList

/-- The outcome that the standard output tells, if any. -/
def outcomeOfOutput? (p : Program) (output : ByteArray) : Option Outcome :=
  match p.kind with
  | .cbc | .glpk => none
  | .gurobi =>
    if mentions output "Optimal solution found" then some .optimal
    else if mentions output "Time limit reached" then some .timeLimit
    else if mentions output "unbounded" then some .unbounded
    else if mentions output "infeasible" then some .infeasible
    else none
  | .cplex => if mentions output "No solution exists" then some .infeasible else none

def readReport (p : Program) (problem : Option Problem) (content : ByteArray) :
    Except ReportError Solution :=
  match p.kind with
  | .cbc => CbcReport.read problem content
  | .glpk => GlpkReport.read content
  | .gurobi => GurobiReport.read content
  | .cplex => CplexReport.read content

end Program

end LinProg
