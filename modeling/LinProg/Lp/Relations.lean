import LinProg.Relation
import LinProg.Text.Words

/-!
# Cutting a line at its relations

`cut` splits a text at `<`, `>` and `=` and at their two-character forms, each the longest possible
at its place.  There is always one operand more than relations.
-/

namespace LinProg.Lp

/-- A line cut at its relations: the first operand, and each relation with the operand after it. -/
structure Cut where
  first : List Char
  rest : List (Relation × List Char)
deriving DecidableEq, Repr

namespace Cut

/-- Puts a character in front of the first operand. -/
def push (c : Char) (k : Cut) : Cut := { k with first := c :: k.first }

/-- Puts a relation with an empty operand before it in front. -/
def relate (r : Relation) (k : Cut) : Cut := ⟨[], (r, k.first) :: k.rest⟩

def trim (k : Cut) : Cut := ⟨Text.trim k.first, k.rest.map fun (r, operand) => (r, Text.trim operand)⟩

end Cut

/-- Cuts a text at its relations, operands as they stand. -/
def cut : List Char → Cut
  | [] => ⟨[], []⟩
  | '<' :: '=' :: cs => (cut cs).relate .le
  | '=' :: '<' :: cs => (cut cs).relate .le
  | '>' :: '=' :: cs => (cut cs).relate .ge
  | '=' :: '>' :: cs => (cut cs).relate .ge
  | '<' :: cs => (cut cs).relate .le
  | '>' :: cs => (cut cs).relate .ge
  | '=' :: cs => (cut cs).relate .eq
  | c :: cs => (cut cs).push c

def splitRelations (cs : List Char) : Cut := (cut cs).trim

end LinProg.Lp
