import LinProg.Text.Words

/-!
# Lines

A line ends at a line feed; one carriage return right before that line feed belongs to the ending.
What follows the last line feed is a line only if it is not empty, and keeps its carriage return.
-/

namespace LinProg.Text

/-- Drops one carriage return at the end. -/
def dropReturn {α : Type} [DecidableEq α] (ret : α) (line : List α) : List α :=
  if line.getLast? = some ret then line.dropLast else line

/-- Takes the line endings off the pieces between line feeds. -/
def closeLines {α : Type} [DecidableEq α] (ret : α) : List (List α) → List (List α)
  | [] => []
  | [last] => if last = [] then [] else [last]
  | line :: more => dropReturn ret line :: closeLines ret more

def lines (cs : List Char) : List (List Char) := closeLines '\r' (pieces (· == '\n') cs)

/-- The lines of a byte string, cut before any of it is decoded. -/
def byteLines (bytes : ByteArray) : List (List UInt8) :=
  closeLines 13 (pieces (· == 10) bytes.toList)

/-- A line of bytes as text, if it is valid UTF-8. -/
def decodeLine (line : List UInt8) : Option (List Char) :=
  (String.fromUTF8? ⟨line.toArray⟩).map String.toList

end LinProg.Text
