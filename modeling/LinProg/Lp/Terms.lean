import LinProg.Lp.Document

/-!
# Reading linear expressions

An expression is a row of words.  Signs may stand alone or be glued to what follows; a number is a
coefficient if a name follows, and a constant if a sign or the end follows.
-/

namespace LinProg.Lp

/-- What has been read of an expression: its terms and constant so far, the sign that applies to
what comes next, and a number that waits for its name. -/
structure TermState where
  terms : List (String × Float)
  constant : Float
  sign : Float
  pending : Option Float

namespace TermState

def start : TermState := ⟨[], 0, 1, none⟩

/-- A sign makes a waiting number a constant; a minus reverses the sign of what comes next. -/
def applySign (s : TermState) (negative : Bool) : TermState :=
  let closed := match s.pending with
    | some c => { s with constant := s.constant + s.sign * c, sign := 1, pending := none }
    | none => s
  if negative then { closed with sign := -closed.sign } else closed

/-- Takes the signs off a word, up to the point where a number remains. -/
def takeSigns : List Char → TermState → List Char × TermState
  | [], s => ([], s)
  | c :: cs, s =>
    if c = '-' ∨ c = '+' then
      let next := s.applySign (c = '-')
      -- a number may have one more sign of its own, which stays with it
      if Number.isNumber cs then (cs, next) else takeSigns cs next
    else (c :: cs, s)

/-- Reads the rest of a word after its signs. -/
def takeOperand (s : TermState) (word : List Char) : Except Fault TermState :=
  match word, Number.read word with
  | [], _ => .ok s
  | _, .ok value =>
    if s.pending.isSome then .error (.unexpectedNumber (String.ofList word))
    else .ok { s with pending := some value }
  | _, .error _ =>
    if isValidName word then
      .ok { s with
        terms := s.terms ++ [(String.ofList word, s.sign * s.pending.getD 1)]
        sign := 1
        pending := none }
    else .error (.invalidToken (String.ofList word))

def takeWord (s : TermState) (word : List Char) : Except Fault TermState :=
  let (rest, next) := takeSigns word s
  next.takeOperand rest

/-- A waiting number is a constant; otherwise a minus must not be left over. -/
def finish (s : TermState) : Except Fault (List (String × Float) × Float) :=
  match s.pending with
  | some c => .ok (s.terms, s.constant + s.sign * c)
  | none => if s.sign != 1 then .error .danglingSign else .ok (s.terms, s.constant)

end TermState

/-- Reads an expression into its terms and constant. -/
def readTerms (text : List Char) : Except Fault (List (String × Float) × Float) := do
  let state ← (Text.words text).foldlM TermState.takeWord TermState.start
  state.finish

end LinProg.Lp
