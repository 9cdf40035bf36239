import LinProg.Number.Shortest

/-!
# Number text

`Number.write` gives a double as the fewest digits that read back, always in positional notation;
`Number.read` takes an optional sign, digits with an optional point and exponent, or a word for
infinity or for the undefined number.
-/

namespace LinProg

inductive NumberError where
  | emptyText
  | invalid
deriving DecidableEq, Repr

namespace NumberError

def message : NumberError → String
  | emptyText => "cannot parse float from empty string"
  | invalid => "invalid float literal"

end NumberError

namespace Number

def largest : Float := Float.ofScientific 17976931348623157 false 292

def infinity : Float := 1.0 / 0.0

/-- The undefined number. -/
def undefined : Float := 0.0 / 0.0

/-- Negative zero, from which sums over a list start. -/
def negativeZero : Float := -0.0

/-- Adds up a list from the left, from negative zero on: an empty sum is negative zero. -/
def sum (xs : List Float) : Float := xs.foldl (· + ·) negativeZero

/-- Whether the sign bit of a double is set. -/
def isNegative (x : Float) : Bool := x.toBits.toNat.testBit 63

/-- Whether a double has no fractional part; neither an infinity nor the undefined number is
whole. -/
def isWhole (x : Float) : Bool := x.isFinite && (Binary.ofFloat x).isWhole

/-! ### Writing -/

/-- A decimal in positional notation: zeros fill the places up to the point, and no point is
written after a whole number. -/
def positional (d : Decimal) : List Char :=
  let digits := Nat.toDigits 10 d.coefficient
  match d.exponent with
  | .ofNat e => digits ++ List.replicate e '0'
  | .negSucc e =>
    let places := e + 1
    if places < digits.length then
      digits.take (digits.length - places) ++ '.' :: digits.drop (digits.length - places)
    else '0' :: '.' :: List.replicate (places - digits.length) '0' ++ digits

def writeMagnitude (x : Float) : List Char :=
  if x.isInf then ['i', 'n', 'f']
  else if x == 0 then ['0']
  else positional (Decimal.shortest x.abs)

/-- The text of a double: shortest digits, never an exponent. -/
def write (x : Float) : String :=
  if x.isNaN then "NaN"
  else if isNegative x then String.ofList ('-' :: writeMagnitude x)
  else String.ofList (writeMagnitude x)

/-! ### Reading -/

def digitsValue (cs : List Char) : Nat :=
  cs.foldl (fun v c => 10 * v + (c.toNat - '0'.toNat)) 0

/-- Reads the exponent that may end a number: nothing, or `e`, an optional sign and digits. -/
def readExponent : List Char → Option Int
  | [] => some 0
  | c :: rest =>
    if c = 'e' ∨ c = 'E' then
      let (negative, digits) := match rest with
        | '-' :: ds => (true, ds)
        | '+' :: ds => (false, ds)
        | ds => (false, ds)
      if digits ≠ [] ∧ digits.all Char.isDigit then
        let value : Int := digitsValue digits
        some (if negative then -value else value)
      else none
    else none

/-- Reads digits with an optional point, then an exponent.  At least one digit is needed, on either
side of the point. -/
def readDecimal (cs : List Char) : Option Decimal :=
  let whole := cs.takeWhile Char.isDigit
  let rest := cs.dropWhile Char.isDigit
  let (fraction, tail) := match rest with
    | '.' :: more => (more.takeWhile Char.isDigit, more.dropWhile Char.isDigit)
    | _ => ([], rest)
  if whole = [] ∧ fraction = [] then none
  else (readExponent tail).map fun e => ⟨digitsValue (whole ++ fraction), e - fraction.length⟩

def readMagnitude (cs : List Char) : Option Float :=
  let word := String.ofList (cs.map Char.toLower)
  if word = "inf" ∨ word = "infinity" then some infinity
  else if word = "nan" then some undefined
  else (readDecimal cs).map Decimal.toFloat

def read : List Char → Except NumberError Float
  | [] => .error .emptyText
  | c :: cs =>
    let value := if c = '-' then (readMagnitude cs).map (fun x => -x)
      else if c = '+' then readMagnitude cs
      else readMagnitude (c :: cs)
    match value with
    | some x => .ok x
    | none => .error .invalid

def isNumber (cs : List Char) : Bool := (read cs).isOk

end Number

end LinProg
