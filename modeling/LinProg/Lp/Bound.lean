import LinProg.Lp.Document
import LinProg.Lp.Relations

/-!
# Reading bound lines

A bound line is `x free`, a name between two numbers, or a name and a number in either order.
-/

namespace LinProg.Lp

/-- Numbers of this magnitude and beyond stand for infinity. -/
def infiniteFrom : Float := 1e30

/-- Reads a bound or a right hand side. -/
def readLimit (text : List Char) : Option Float :=
  match Number.read (Text.trim text) with
  | .ok value =>
    if infiniteFrom ≤ value then some Number.infinity
    else if value ≤ -infiniteFrom then some (-Number.infinity)
    else some value
  | .error _ => none

/-- The sides of a variable that a bound line sets. -/
structure BoundLine where
  name : List Char
  lower : Option Float
  upper : Option Float

namespace BoundLine

/-- A name that a relation compares with a number. -/
def ofRelation (name : List Char) (value : Float) : Relation → BoundLine
  | .le => ⟨name, none, some value⟩
  | .ge => ⟨name, some value, none⟩
  | .eq => ⟨name, some value, some value⟩

def ofCut? : Cut → Option BoundLine
  | ⟨a, [(.le, name), (.le, b)]⟩ => do return ⟨name, some (← readLimit a), some (← readLimit b)⟩
  | ⟨a, [(.ge, name), (.ge, b)]⟩ => do return ⟨name, some (← readLimit b), some (← readLimit a)⟩
  | ⟨left, [(r, right)]⟩ =>
    match readLimit left with
    | some value => some (ofRelation right value r.reverse)
    | none => (readLimit right).map fun value => ofRelation left value r
  | _ => none

/-- Reads a bound line.  The name of a free variable is taken as it stands. -/
def read (text : List Char) : Except Fault BoundLine :=
  let invalid := Fault.invalidBound (String.ofList text)
  let related : Except Fault BoundLine :=
    match ofCut? (splitRelations text) with
    | some line => if isValidName line.name then .ok line else .error invalid
    | none => .error invalid
  match Text.words text with
  | [name, word] =>
    if isWord "free" word then .ok ⟨name, some (-Number.infinity), some Number.infinity⟩
    else related
  | _ => related

/-- Sets the sides that the line mentions. -/
def apply (line : BoundLine) (v : Declared) : Declared :=
  { v with lower := line.lower.getD v.lower, upper := line.upper.getD v.upper }

end BoundLine

end LinProg.Lp
