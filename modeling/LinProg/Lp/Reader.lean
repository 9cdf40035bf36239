import LinProg.Lp.Bound
import LinProg.Lp.Terms
import LinProg.Text.Lines

/-!
# Reading an LP text

A text is read line by line.  What follows a backslash is a comment, and the first comment before
the objective names the problem.  A keyword line opens a section, `end` ends the text, and every
other line belongs to the section it stands in.
-/

namespace LinProg.Lp

/-- What has been read of a text. -/
structure ReadState where
  stage : Section
  name : String
  sense : Sense
  objective : List (String × Float)
  rows : List Row
  table : VariableTable

namespace ReadState

def start : ReadState := ⟨.preamble, "", .minimize, [], [], .empty⟩

/-- The first comment of the preamble names the problem. -/
def takeComment (s : ReadState) (comment : List Char) : ReadState :=
  if s.stage = .preamble ∧ s.name = "" then { s with name := String.ofList (Text.trim comment) }
  else s

/-- Splits a label off a line, at the first colon. -/
def splitLabel (text : List Char) : Option (List Char) × List Char :=
  match Text.splitOnce ':' text with
  | some (label, rest) => (some (Text.trim label), rest)
  | none => (none, text)

/-- Reads an objective line.  Its constant is dropped. -/
def takeObjective (s : ReadState) (text : List Char) : Except Fault ReadState := do
  let (terms, _) ← readTerms (splitLabel text).2
  return { s with objective := s.objective ++ terms, table := s.table.enterTerms terms }

/-- The name of a row without a label: its number, counted from one. -/
def rowName (s : ReadState) : String := "R" ++ toString (s.rows.length + 1)

def takeRow (s : ReadState) (text : List Char) : Except Fault ReadState := do
  let (label, body) := splitLabel text
  match splitRelations body with
  | ⟨left, [(relation, right)]⟩ =>
    let (terms, constant) ← readTerms left
    let some rhs := readLimit right | throw (.badRightHandSide (String.ofList right))
    let name := match label with
      | some label => String.ofList label
      | none => s.rowName
    return { s with
      rows := s.rows ++ [⟨name, terms, relation, rhs - constant⟩]
      table := s.table.enterTerms terms }
  | _ => throw .relationCount

def takeBound (s : ReadState) (text : List Char) : Except Fault ReadState := do
  let line ← BoundLine.read text
  return { s with table := s.table.bound (String.ofList line.name) line.apply }

/-- A listed integer variable stays binary if it is binary already. -/
def makeInteger (v : Declared) : Declared :=
  if v.domain = .binary then v else { v with domain := .integer }

/-- A listed binary variable has its bounds cut to the unit interval. -/
def makeBinary (v : Declared) : Declared :=
  { v with
    domain := .binary
    lower := if 0 < v.lower then v.lower else 0
    upper := if v.upper < 1 then v.upper else 1 }

def takeList (s : ReadState) (f : Declared → Declared) (text : List Char) : ReadState :=
  { s with table := (Text.words text).foldl (fun t w => t.update (String.ofList w) f) s.table }

/-- Reads a line that is neither a keyword nor empty. -/
def takeContent (s : ReadState) (text : List Char) : Except Fault ReadState :=
  match s.stage with
  | .preamble => .error .noObjectiveSection
  | .objective => s.takeObjective text
  | .constraints => s.takeRow text
  | .bounds => s.takeBound text
  | .generals => .ok (s.takeList makeInteger text)
  | .binaries => .ok (s.takeList makeBinary text)

def openSection (s : ReadState) (stage : Section) (sense : Option Sense) : ReadState :=
  { s with stage, sense := sense.getD s.sense }

def document (s : ReadState) : Document :=
  ⟨s.name, s.sense, s.objective, s.rows, s.table.ordered⟩

end ReadState

def splitComment (line : List Char) : List Char × Option (List Char) :=
  match Text.splitOnce '\\' line with
  | some (content, comment) => (Text.trim content, some comment)
  | none => (Text.trim line, none)

/-- Reads lines up to the end line; the first of them has the number `line`. -/
def readLines (line : Nat) (s : ReadState) : List (List Char) → Except ReadError ReadState
  | [] => .ok s
  | raw :: more =>
    let (content, comment) := splitComment raw
    -- a comment counts on any line, also on the end line
    let s := match comment with
      | some comment => s.takeComment comment
      | none => s
    if content = [] then readLines (line + 1) s more
    else if isWord "end" content then .ok s
    else match sectionKeyword content with
      | some (stage, sense) => readLines (line + 1) (s.openSection stage sense) more
      | none =>
        match s.takeContent content with
        | .ok next => readLines (line + 1) next more
        | .error fault => .error ⟨line, fault⟩

def read (text : String) : Except ReadError Document :=
  (readLines 1 .start (Text.lines text.toList)).map ReadState.document

end LinProg.Lp
