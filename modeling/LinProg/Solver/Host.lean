import LinProg.Disk
import LinProg.Solver.Program

/-!
# Where programs run

A host has a disk and installed programs.  What an installed program does is given as a list of
responses, one for each time it is launched, the last of which repeats.
-/

namespace LinProg

/-- What a program does when launched: its exit code, its standard output, and what it writes to the
solution file, if it writes anything. -/
structure Response where
  exitCode : UInt8
  output : ByteArray
  solution : Option ByteArray

structure Launch where
  command : String
  arguments : List String
  problemText : String
deriving DecidableEq, Repr

/-- A disk, the installed programs, and the launches so far. -/
structure Host where
  disk : Disk
  installed : List (String × List Response)
  launches : List Launch

namespace Host

/-- The response of a program that does nothing and succeeds. -/
def idle : Response := ⟨0, .empty, none⟩

def launchCount (h : Host) (command : String) : Nat :=
  h.launches.countP (·.command = command)

/-- What a program does the next time it is launched, if it is installed. -/
def nextResponse? (h : Host) (command : String) : Option Response :=
  (h.installed.lookup command).map fun responses =>
    (responses[h.launchCount command]? <|> responses.getLast?).getD idle

def record (h : Host) (launch : Launch) : Host := { h with launches := h.launches ++ [launch] }

end Host

inductive SolverError where
  | problemFile (command : String)
  | launch (command : String) (cause : FileError)
  | exitStatus (command : String) (code : UInt8)
  | solutionFile (path : String) (cause : FileError)
  | report (cause : ReportError)
  | noSolver
deriving DecidableEq, Repr

def SolverError.message : SolverError → String
  | problemFile command => "unable to create " ++ command ++ " problem file"
  | launch command cause => "error running " ++ command ++ ": " ++ cause.message
  | exitStatus command code => command ++ " exited with exit status: " ++ toString code
  | solutionFile path cause => "cannot open solution file " ++ path ++ ": " ++ cause.message
  | report cause => cause.message
  | noSolver => "no solver available"

end LinProg
