import LinProg.Number.Text
import LinProg.Relation
import LinProg.Variable

/-!
# Problems and their LP text

A problem has named columns, and an objective and rows that refer to columns by position.
`Problem.text` is its LP text: objective, rows, bounds, and the lists of integer and binary columns.
-/

namespace LinProg

structure ProblemColumn where
  name : String
  domain : Domain
  lower : Float
  upper : Float
deriving DecidableEq

/-- A row of a problem; its terms refer to columns by position. -/
structure ProblemRow where
  name : String
  terms : List (Nat × Float)
  relation : Relation
  rhs : Float
deriving DecidableEq

/-- A linear problem, ready to be written. -/
structure Problem where
  name : String := "lp_modeling_problem"
  sense : Sense
  columns : List ProblemColumn
  objective : List (Nat × Float)
  rows : List ProblemRow
deriving DecidableEq

namespace Lp

/-- A weighted name without its sign; the weight one is not written. -/
def weighted (name : String) (coefficient : Float) : String :=
  if coefficient.abs == 1 then name else Number.write coefficient.abs ++ " " ++ name

/-- The terms after the first, each with its sign as an operator. -/
def furtherTerms : List (String × Float) → String
  | [] => ""
  | (name, c) :: rest => (if c < 0 then " - " else " + ") ++ weighted name c ++ furtherTerms rest

/-- A sum of weighted names.  Terms with coefficient zero are left out; without any other term the
placeholder is written with coefficient zero. -/
def writeTerms (terms : List (String × Float)) (placeholder : Option String) : String :=
  match terms.filter (fun t => t.2 != 0), placeholder with
  | (name, c) :: rest, _ => (if c < 0 then "- " else "") ++ weighted name c ++ furtherTerms rest
  | [], some name => "0 " ++ name
  | [], none => "0"

end Lp

namespace ProblemColumn

/-- Whether the bounds of the column are both infinite, each on its own side. -/
def isFree (c : ProblemColumn) : Bool :=
  c.lower == -Number.infinity && c.upper == Number.infinity

/-- The bounds of the column on one line.  An infinite upper bound is not written. -/
def boundText (c : ProblemColumn) : String :=
  if c.isFree then "  " ++ c.name ++ " free\n"
  else
    let lower := if c.lower == -Number.infinity then "-inf" else Number.write c.lower
    let upper := if c.upper < Number.infinity then " <= " ++ Number.write c.upper else ""
    "  " ++ lower ++ " <= " ++ c.name ++ upper ++ "\n"

end ProblemColumn

namespace Problem

/-- The name of a column; the terms of a well-formed problem refer to its columns only. -/
def columnName (p : Problem) (index : Nat) : String :=
  match p.columns[index]? with
  | some c => c.name
  | none => ""

/-- Terms under the names of their columns. -/
def named (p : Problem) (terms : List (Nat × Float)) : List (String × Float) :=
  terms.map fun (index, c) => (p.columnName index, c)

/-- The text of a sum of columns; the first column stands in for an empty sum. -/
def termsText (p : Problem) (terms : List (Nat × Float)) : String :=
  Lp.writeTerms (p.named terms) (p.columns.head?.map (·.name))

def objectiveText (p : Problem) : String :=
  (match p.sense with
    | .minimize => "Minimize\n  obj: "
    | .maximize => "Maximize\n  obj: ") ++ p.termsText p.objective ++ "\n"

def rowText (p : Problem) (row : ProblemRow) : String :=
  "  " ++ row.name ++ ": " ++ p.termsText row.terms ++ " " ++ row.relation.symbol ++ " " ++
    Number.write row.rhs ++ "\n"

def rowsText (p : Problem) : String :=
  if p.rows.isEmpty then "" else "\nSubject To\n" ++ String.join (p.rows.map p.rowText)

def boundsText (p : Problem) : String :=
  "\nBounds\n" ++ String.join (p.columns.map ProblemColumn.boundText)

/-- The list of the columns with a given domain, absent if there are none. -/
def domainText (p : Problem) (header : String) (domain : Domain) : String :=
  let listed := p.columns.filter (·.domain = domain)
  if listed.isEmpty then ""
  else "\n" ++ header ++ "\n" ++ String.join (listed.map fun c => "  " ++ c.name ++ "\n")

def text (p : Problem) : String :=
  "\\ " ++ p.name ++ "\n\n" ++ p.objectiveText ++ p.rowsText ++ p.boundsText ++
    p.domainText "Generals" .integer ++ p.domainText "Binaries" .binary ++ "\nEnd\n"

end Problem

end LinProg
