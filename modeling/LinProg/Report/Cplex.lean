import LinProg.Solution
import LinProg.Text.Quoted
import LinProg.Xml

/-!
# Solution files of Cplex

An XML document: the header tells the status, and there is one element for each variable and each
constraint.
-/

namespace LinProg.CplexReport

/-- The outcome that a status text stands for, in any letter case. -/
def outcomeOf (status : String) : Outcome :=
  let text := Text.lower status.toList
  if Text.occurs "infeasible".toList text then .infeasible
  else if Text.occurs "unbounded".toList text then .unbounded
  else if Text.occurs "time limit".toList text then .timeLimit
  else if Text.occurs "optimal".toList text then .optimal
  else .subOptimal

def readValue (what name raw : String) : Except ReportError Float :=
  match Number.read raw.toList with
  | .ok x => .ok x
  | .error cause => .error (.cplexValue what (Text.Quoted.encode name) cause)

def enter (what name : String) (raw : Option String) (values : Sparse String) :
    Except ReportError (Sparse String) :=
  match raw with
  | some raw => (readValue what name raw).map (values.set name)
  | none => .ok values

def readTag (s : Solution) (tag : Xml.StartTag) : Except ReportError Solution :=
  match tag.name, tag.get? "name" with
  | "header", _ =>
    match tag.get? "solutionStatusString" with
    | some status => .ok { s with outcome := outcomeOf status }
    | none => .ok s
  | "variable", some name => do
    let results ← enter "variable" name (tag.get? "value") s.results
    let reducedCosts ← enter "reduced cost" name (tag.get? "reducedCost") s.reducedCosts
    return { s with results, reducedCosts }
  | "constraint", some name => do
    return { s with duals := ← enter "dual" name (tag.get? "dual") s.duals }
  | _, _ => .ok s

/-- Reads a solution file.  A bad value before a malformed place is the error. -/
def read (bytes : ByteArray) : Except ReportError Solution := do
  let stream := Xml.scanBytes bytes
  let s ← stream.tags.foldlM readTag (.ofResults .optimal .empty)
  if stream.wellFormed then return s else throw .malformedXml

end LinProg.CplexReport
