import LinProg.Lp.Problem
import LinProg.Solution
import LinProg.Text.Lines

/-!
# Solution files of Cbc

The first line tells the outcome.  Every further line that is not blank lists a number, a name, a
value and a dual value, after an optional `**`.  The name decides whether the line is about a row or
about a column.
-/

namespace LinProg.CbcReport

def readOutcome (header : List Char) : Except ReportError Outcome :=
  match (Text.words header).map String.ofList with
  | [] => .error .emptyCbc
  | "Optimal" :: _ => .ok .optimal
  | "Infeasible" :: _ | "Integer" :: "infeasible" :: _ => .ok .infeasible
  | "Unbounded" :: _ => .ok .unbounded
  | "Stopped" :: "on" :: "time" :: _ => .ok .timeLimit
  | "Stopped" :: "on" :: "iterations" :: _ => .ok .iterationLimit
  | "Stopped" :: "on" :: "ctrl-c" :: _ => .ok .interrupted
  | "Stopped" :: _ => .ok .subOptimal
  | _ => .ok .notSolved

def readField (field : List Char) : Except ReportError Float :=
  match Number.read field with
  | .ok x => .ok x
  | .error cause => .error (.cbcField (String.ofList field) cause)

/-- The fields of a line, without the mark that may stand in front. -/
def fields (line : List Char) : List (List Char) :=
  match Text.words line with
  | ['*', '*'] :: rest => rest
  | words => words

/-- Reads a line into the solution; a blank line says nothing. -/
def readLine (rowNames : List String) (s : Solution) (line : List Char) :
    Except ReportError Solution :=
  if Text.words line = [] then .ok s
  else match fields line with
    | [_, nameField, valueField, dualField] => do
      let name := String.ofList nameField
      let value ← readField valueField
      let dual ← readField dualField
      if name ∈ rowNames then return { s with duals := s.duals.set name dual }
      else return { s with
        results := s.results.set name value
        reducedCosts := s.reducedCosts.set name dual }
    | _ => .error (.cbcLine (String.ofList line))

def readLines (rowNames : List String) (s : Solution) :
    List (List UInt8) → Except ReportError Solution
  | [] => .ok s
  | bytes :: more =>
    match Text.decodeLine bytes with
    | none => .error .notUtf8
    | some line =>
      match readLine rowNames s line with
      | .ok next => readLines rowNames next more
      | .error e => .error e

/-- The names of the columns of a problem, each with the value zero: columns that are zero need not
be listed. -/
def zeros (names : List String) : Sparse String := .ofList (names.map fun name => (name, 0))

/-- Reads a solution file.  Without a problem every name is taken for that of a column. -/
def read (problem : Option Problem) (bytes : ByteArray) : Except ReportError Solution := do
  let columnNames := match problem with
    | some p => p.columns.map (·.name)
    | none => []
  let rowNames := match problem with
    | some p => p.rows.map (·.name)
    | none => []
  let (header, more) := match Text.byteLines bytes with
    | [] => ([], [])
    | header :: more => (header, more)
  match Text.decodeLine header with
  | none => .error .notUtf8
  | some header =>
    let outcome ← readOutcome header
    readLines rowNames (.ofResults outcome (zeros columnNames)) more

end LinProg.CbcReport
