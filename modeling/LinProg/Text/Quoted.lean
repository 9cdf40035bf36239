import LinProg.Text.Extending
import LinProg.Text.Unprinted

/-!
# Quoted text

A quoted text stands between double quotes.  Quotes and backslashes inside it are escaped with a
backslash, and characters that would not be seen as themselves are given by their number.
-/

namespace LinProg.Text.Quoted

/-- Letters that fill a place and show nothing. -/
def fillers : List Char := ['\u115F', '\u1160', '\u3164', '\uFFA0']

/-- Whether a character is given by its number: it has no printed form, it would join the character
before it, or it shows nothing. -/
def isHidden (c : Char) : Bool := isUnprinted c || isExtending c || fillers.contains c

def escape (c : Char) : List Char :=
  if c = '"' then ['\\', '"']
  else if c = '\\' then ['\\', '\\']
  else if c = '\n' then ['\\', 'n']
  else if c = '\r' then ['\\', 'r']
  else if c = '\t' then ['\\', 't']
  else if c.toNat = 0 then ['\\', '0']
  else if isHidden c then ['\\', 'u', '\x7b'] ++ Nat.toDigits 16 c.toNat ++ ['\x7d']
  else [c]

/-- A text between quotes. -/
def encode (s : String) : String := String.ofList ('"' :: s.toList.flatMap escape ++ ['"'])

end LinProg.Text.Quoted
