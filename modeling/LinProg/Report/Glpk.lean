import LinProg.Solution
import LinProg.Text.Lines

/-!
# Solution files of glpsol

The printed report gives the numbers of rows and columns on its second and third line and the status
on its fifth.  The row entries and two headings follow, then one entry for each column.  A name that
is too long for its place puts the rest of its entry on a line of its own.
-/

namespace LinProg.GlpkReport

/-- A line of the report, if it is valid UTF-8. -/
abbrev Line := Option (List Char)

/-- Reads a natural number that fits a machine word. -/
def readCount (word : List Char) : Option Nat :=
  let digits := match word with
    | '+' :: ds => ds
    | ds => ds
  if digits ≠ [] ∧ digits.all Char.isDigit ∧ Number.digitsValue digits < UInt64.size then
    some (Number.digitsValue digits)
  else none

/-- Reads a size line: the count is its second word. -/
def readSize : Option Line → Except ReportError Nat
  | some (some line) =>
    match (Text.words line)[1]?.bind readCount with
    | some n => .ok n
    | none => .error .glpkSize
  | _ => .error .glpkSizeMissing

/-- Drops a number of bytes from a text, if they end between two characters. -/
def dropBytes : Nat → List Char → Option (List Char)
  | 0, cs => some cs
  | _ + 1, [] => none
  | n + 1, c :: cs => if c.utf8Size ≤ n + 1 then dropBytes (n + 1 - c.utf8Size) cs else none

def outcomeOf? (status : String) : Option Outcome :=
  if status ∈ ["INTEGER OPTIMAL", "OPTIMAL"] then some .optimal
  else if status ∈ ["INTEGER NON-OPTIMAL", "FEASIBLE"] then some .subOptimal
  else if status ∈ ["INFEASIBLE (FINAL)", "INTEGER EMPTY"] then some .infeasible
  else if status = "UNDEFINED" then some .notSolved
  else if status ∈ ["INTEGER UNDEFINED", "UNBOUNDED"] then some .unbounded
  else none

/-- Reads the status line: the status follows a heading of twelve bytes. -/
def readOutcome : Option Line → Except ReportError Outcome
  | some (some line) =>
    match (dropBytes 12 line).bind fun rest => outcomeOf? (String.ofList (Text.trim rest)) with
    | some outcome => .ok outcome
    | none => .error .glpkStatusUnknown
  | _ => .error .glpkStatusMissing

/-- Reads a column entry: its name is the second word and its activity the fourth. -/
def readEntry (line : List Char) : Except ReportError (String × Float) :=
  match Text.words line with
  | _ :: name :: _ :: activity :: _ =>
    match Number.read activity with
    | .ok x => .ok (String.ofList name, x)
    | .error cause => .error (.value cause)
  | _ => .error .glpkEntryShort

/-- Reads a number of column entries.  A line of two words goes on with the next line. -/
def readEntries (results : Sparse String) : Nat → List Line → Except ReportError (Sparse String)
  | 0, _ => .ok results
  | n + 1, some line :: more =>
    if (Text.words line).length = 2 then
      match more with
      | some rest :: more => do
        let (name, x) ← readEntry (line ++ ' ' :: rest)
        readEntries (results.set name x) n more
      | _ => .error .glpkEntryTruncated
    else do
      let (name, x) ← readEntry line
      readEntries (results.set name x) n more
  | _ + 1, _ => .error .glpkColumnsMissing

def read (bytes : ByteArray) : Except ReportError Solution := do
  let lines := (Text.byteLines bytes).map Text.decodeLine
  let rows ← readSize lines[1]?
  let columns ← readSize lines[2]?
  let outcome ← readOutcome lines[4]?
  -- the objective and the headings of both parts take seven lines, and each row is taken for one
  let results ← readEntries .empty columns (lines.drop (5 + (rows + 7)))
  return .ofResults outcome results

end LinProg.GlpkReport
