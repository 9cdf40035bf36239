import LinProg.Number.Text
import LinProg.Relation
import LinProg.Text.Words

/-!
# Keywords and names of the LP format

A line that consists of a keyword opens a section.  A reserved word is a token that would be read
as something other than a name; a valid name is one that the format admits.
-/

namespace LinProg.Lp

/-- The sections of an LP text.  `preamble` is what stands before the objective. -/
inductive Section where
  | preamble
  | objective
  | constraints
  | bounds
  | generals
  | binaries
deriving DecidableEq, Repr

/-- The section that a line opens, with the sense that an objective keyword gives. -/
def sectionKeyword (line : List Char) : Option (Section × Option Sense) :=
  let word := String.ofList (Text.lower line)
  if word ∈ ["minimize", "minimise", "minimum", "min"] then some (.objective, some .minimize)
  else if word ∈ ["maximize", "maximise", "maximum", "max"] then some (.objective, some .maximize)
  else if word ∈ ["subject to", "such that", "st", "s.t."] then some (.constraints, none)
  else if word ∈ ["bounds", "bound"] then some (.bounds, none)
  else if word ∈ ["generals", "general", "gen", "integers"] then some (.generals, none)
  else if word ∈ ["binaries", "binary", "bin"] then some (.binaries, none)
  else none

/-- Whether a text is a word, in any letter case; the word is given in small letters. -/
def isWord (word : String) (cs : List Char) : Bool := String.ofList (Text.lower cs) = word

/-- Whether a token would be read as something other than a name. -/
def isReserved (token : List Char) : Bool :=
  Number.isNumber token || (sectionKeyword token).isSome ||
    ["end", "free", "subject", "such", "infinity"].any (isWord · token)

/-- The marks that a name may contain beside ASCII letters and digits. -/
def nameMarks : List Char := "_.!\"#$%&()/,;?@'`\x7b\x7d|~[]".toList

def isNameChar (c : Char) : Bool := c.isAlphanum || nameMarks.contains c

/-- Whether the format admits a name: it starts with neither a digit nor a point. -/
def isValidName : List Char → Bool
  | [] => false
  | c :: cs => !c.isDigit && c != '.' && (c :: cs).all isNameChar

end LinProg.Lp
