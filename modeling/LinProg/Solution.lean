import LinProg.Number.Text
import LinProg.Sparse
import LinProg.Status

/-!
# Solutions

A solution is what a solver program says about a problem, under the names of the problem text.
-/

namespace LinProg

/-- Values, reduced costs and duals by name.  A solver that reports no reduced costs or duals
leaves them empty. -/
structure Solution where
  outcome : Outcome
  results : Sparse String
  reducedCosts : Sparse String
  duals : Sparse String

def Solution.ofResults (outcome : Outcome) (results : Sparse String) : Solution :=
  ⟨outcome, results, .empty, .empty⟩

/-- Why a solution file is not what its program should have written. -/
inductive ReportError where
  | notUtf8
  | emptyCbc
  | cbcLine (line : String)
  | cbcField (field : String) (cause : NumberError)
  | glpkSize
  | glpkSizeMissing
  | glpkStatusUnknown
  | glpkStatusMissing
  | glpkColumnsMissing
  | glpkEntryTruncated
  | glpkEntryShort
  | gurobiLine (line : String)
  | value (cause : NumberError)
  | cplexValue (what : String) (quotedName : String) (cause : NumberError)
  | malformedXml
deriving DecidableEq, Repr

def ReportError.message : ReportError → String
  | malformedXml => "xml error"
  | error => "incorrect solution format: " ++
    match error with
    | notUtf8 => "stream did not contain valid UTF-8"
    | emptyCbc => "empty cbc solution"
    | cbcLine line => "unexpected cbc line '" ++ line ++ "'"
    | cbcField field cause => "'" ++ field ++ "': " ++ cause.message
    | glpkSize => "size line"
    | glpkSizeMissing => "missing size line"
    | glpkStatusUnknown => "unknown solution status"
    | glpkStatusMissing => "no solution status found"
    | glpkColumnsMissing => "not all columns are present"
    | glpkEntryTruncated => "truncated column entry"
    | glpkEntryShort => "column line has too few fields"
    | gurobiLine line => "unexpected gurobi line '" ++ line ++ "'"
    | value cause => cause.message
    | cplexValue what quotedName cause =>
      "invalid " ++ what ++ " value for " ++ quotedName ++ ": " ++ cause.message
    | malformedXml => "malformed"

end LinProg
