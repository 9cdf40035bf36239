import LinProg.Solution
import LinProg.Text.Lines

/-!
# Solution files of Gurobi

Lines that start with `#` are comments; every other line that is not blank gives a name and its
value.  The file is only read after an optimal run.
-/

namespace LinProg.GurobiReport

/-- Whether a line says nothing. -/
def isComment (line : List Char) : Bool := line.head? = some '#' || Text.trim line = []

def readLine (results : Sparse String) (line : List Char) : Except ReportError (Sparse String) :=
  if isComment line then .ok results
  else match Text.words line with
    | [name, value] =>
      match Number.read value with
      | .ok x => .ok (results.set (String.ofList name) x)
      | .error cause => .error (.value cause)
    | _ => .error (.gurobiLine (String.ofList line))

def readLines (results : Sparse String) : List (List UInt8) → Except ReportError (Sparse String)
  | [] => .ok results
  | bytes :: more =>
    match Text.decodeLine bytes with
    | none => .error .notUtf8
    | some line =>
      match readLine results line with
      | .ok next => readLines next more
      | .error e => .error e

def read (bytes : ByteArray) : Except ReportError Solution :=
  (readLines .empty (Text.byteLines bytes)).map (.ofResults .optimal)

end LinProg.GurobiReport
