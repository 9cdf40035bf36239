import LinProg.Solver.Host

/-!
# Running solvers

A program is launched on the text of a problem and its solution file is read back.  A chain tries
its first solver on a tiny probe and goes on with the second if that fails.
-/

namespace LinProg

/-- A computation on a host that may fail, and leaves the host as it got. -/
abbrev HostM := EStateM SolverError Host

namespace Scratch

/-- How the fresh file of a problem is called on a command line. -/
def problemPath : String := "<lp>"

def solutionPath : String := "<sol>"

/-- Whether a fresh file can be made for a name: six characters and a suffix go after the name, and
a file name has at most 255 bytes. -/
def fits (name suffix : String) : Bool := name.utf8ByteSize + 6 + suffix.utf8ByteSize ≤ 255

end Scratch

namespace Program

/-- Where the solution goes: a file of the disk, or a fresh file outside of it. -/
inductive SolutionPlace where
  | kept (path : String)
  | fresh
deriving DecidableEq, Repr

def SolutionPlace.path : SolutionPlace → String
  | kept path => path
  | fresh => Scratch.solutionPath

/-- Chooses the files of a run, which fails if a fresh file cannot be made. -/
def place (p : Program) (problem : Problem) : HostM SolutionPlace := do
  unless Scratch.fits problem.name ".lp" do throw (.problemFile p.command)
  match p.solutionFile with
  | some path => return .kept path
  | none =>
    unless Scratch.fits problem.name (p.kind.solutionSuffix?.getD ".sol") do
      throw (.problemFile p.command)
    return .fresh

/-- Writes to the solution file.  A program that cannot write goes on without. -/
def leave (h : Host) (path : String) : Option ByteArray → Host
  | some content =>
    match h.disk.write path content with
    | .ok disk => { h with disk }
    | .error _ => h
  | none => h

/-- Launches the program.  It is recorded even if it fails then. -/
def launch (p : Program) (problem : Problem) (params : Params) (place : SolutionPlace) :
    HostM Response := do
  let host ← get
  let some response := host.nextResponse? p.command | throw (.launch p.command .notFound)
  let arguments := p.arguments Scratch.problemPath place.path params
  set (host.record ⟨p.command, arguments, problem.text⟩)
  -- the file is there even if the exit code makes the run fail
  match place with
  | .kept path => modify fun h => leave h path response.solution
  | .fresh => pure ()
  if response.exitCode ≠ 0 then throw (.exitStatus p.command response.exitCode)
  return response

/-- Reads a solution file of the disk, and removes it once it has been read without error. -/
def readSolution (p : Program) (problem : Option Problem) (path : String) : HostM Solution := do
  match (← get).disk.read path with
  | .error cause => throw (.solutionFile path cause)
  | .ok content =>
    match p.readReport problem content with
    | .ok solution =>
      modify fun h => { h with disk := h.disk.remove path }
      return solution
    | .error cause => throw (.report cause)

/-- Reads what the program left.  A fresh file is empty if the program did not write to it. -/
def collect (p : Program) (problem : Problem) (place : SolutionPlace) (response : Response) :
    HostM Solution :=
  match place with
  | .kept path => p.readSolution (some problem) path
  | .fresh =>
    match p.readReport (some problem) (response.solution.getD .empty) with
    | .ok solution => return solution
    | .error cause => throw (.report cause)

/-- Solves a problem.  An outcome on the standard output other than an optimal one ends the run
without a look at the solution file. -/
def run (p : Program) (problem : Problem) (params : Params) : HostM Solution := do
  let place ← p.place problem
  let response ← p.launch problem params place
  match p.outcomeOfOutput? response.output with
  | some .optimal | none => p.collect problem place response
  | some outcome => return .ofResults outcome .empty

end Program

/-- A smallest problem: minimize `x` between zero and one. -/
def Problem.probe : Problem where
  name := "probe"
  sense := .minimize
  columns := [⟨"x", .continuous, 0, 1⟩]
  objective := [(0, 1)]
  rows := []

/-- A tree of solvers.  A leaf without a program never finds a solution; a chain uses its first
solver if that solves the probe, and its second otherwise. -/
inductive Solver where
  | leaf (program : Option Program)
  | chain (first second : Solver)
deriving DecidableEq, Repr

namespace Solver

def none : Solver := leaf .none

def program (p : Program) : Solver := leaf (some p)

/-- The first that works of Gurobi, Cplex, Cbc and glpsol. -/
def all : Solver :=
  chain (program (.ofKind .gurobi))
    (chain (program (.ofKind .cplex))
      (chain (program (.ofKind .cbc)) (chain (program (.ofKind .glpk)) none)))

def displayName? : Solver → Option String
  | leaf (some p) => p.kind.displayName?
  | _ => .none

/-- Solves a problem, given how leaves do.  What a failing probe leaves behind stays. -/
def runWith {σ : Type}
    (onLeaf : Option Program → Problem → Params → EStateM SolverError σ Solution) :
    Solver → Problem → Params → EStateM SolverError σ Solution
  | leaf p, problem, params => onLeaf p problem params
  | chain first second, problem, params => fun s =>
    match runWith onLeaf first .probe params s with
    | .ok _ s => runWith onLeaf first problem params s
    | .error _ s => runWith onLeaf second problem params s

def runLeaf : Option Program → Problem → Params → HostM Solution
  | some p, problem, params => p.run problem params
  | .none, _, _ => throw .noSolver

def run (s : Solver) (problem : Problem) (params : Params) : HostM Solution :=
  s.runWith runLeaf problem params

end Solver

end LinProg
