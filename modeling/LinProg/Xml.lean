import LinProg.Text.Words

/-!
# XML documents as a stream of start tags

`scan` reads a document from the front and lists its start tags with their attributes, up to the
first place that is not well-formed.  Comments, processing instructions, text and end tags are
checked but not listed.
-/

namespace LinProg.Xml

/-- A start tag, self-closing or not. -/
structure StartTag where
  name : String
  attributes : List (String × String)
deriving DecidableEq, Repr

def StartTag.get? (t : StartTag) (name : String) : Option String := t.attributes.lookup name

/-- The start tags up to the first malformed place, and whether there is none such. -/
structure Stream where
  tags : List StartTag
  wellFormed : Bool
deriving DecidableEq, Repr

namespace Stream

def malformed : Stream := ⟨[], false⟩

def push (t : StartTag) (s : Stream) : Stream := { s with tags := t :: s.tags }

end Stream

/-- White space between the parts of a document. -/
def isSpace (c : Char) : Bool := c == ' ' || c == '\t' || c == '\n' || c == '\r'

/-- Whether a name may start with the character. -/
def isNameStart (c : Char) : Bool := c.isAlpha || c == '_' || c == ':' || 0xC0 ≤ c.toNat

def isNameChar (c : Char) : Bool :=
  isNameStart c || c.isDigit || c == '-' || c == '.' || c.toNat == 0xB7

def takeName : List Char → Option (List Char × List Char)
  | [] => none
  | c :: cs =>
    if isNameStart c then some (c :: cs.takeWhile isNameChar, cs.dropWhile isNameChar) else none

/-- The part of a qualified name after its colon. -/
def localName (name : List Char) : String :=
  match Text.splitOnce ':' name with
  | some (_, rest) => String.ofList rest
  | none => String.ofList name

def readCode (base : Nat) (cs : List Char) : Option Nat :=
  if cs = [] then none
  else cs.foldl (fun v c => v.bind fun n =>
    let d := if c.isDigit then some (c.toNat - '0'.toNat)
      else if 'a' ≤ c ∧ c ≤ 'f' then some (c.toNat - 'a'.toNat + 10)
      else if 'A' ≤ c ∧ c ≤ 'F' then some (c.toNat - 'A'.toNat + 10)
      else none
    d.bind fun d => if d < base then some (n * base + d) else none) (some 0)

/-- The character that a reference stands for, given what is between `&` and `;`. -/
def reference? (body : List Char) : Option Char :=
  match body with
  | '#' :: 'x' :: code => (readCode 16 code).bind ofCode?
  | '#' :: code => (readCode 10 code).bind ofCode?
  | name =>
    let name := String.ofList name
    [("lt", '<'), ("gt", '>'), ("amp", '&'), ("quot", '"'), ("apos", '\'')].lookup name
where
  ofCode? (n : Nat) : Option Char := if n.isValidChar ∧ n ≠ 0 then some (Char.ofNat n) else none

/-- Takes an attribute value off the front, up to its closing quote. -/
def takeValue (quote : Char) : Nat → List Char → Option (List Char × List Char)
  | 0, _ | _, [] => none
  | fuel + 1, c :: cs =>
    if c = quote then some ([], cs)
    else if c = '<' then none
    else if c = '&' then do
      let (body, rest) ← Text.splitOnce ';' cs
      let decoded ← reference? body
      let (value, rest) ← takeValue quote fuel rest
      return (decoded :: value, rest)
    else do
      let (value, rest) ← takeValue quote fuel cs
      return (c :: value, rest)

/-- How a start tag ends, and what follows it. -/
structure TagEnd where
  attributes : List (String × String)
  selfClosing : Bool
  rest : List Char

/-- Takes attributes off the front, up to the end of the tag.  Each needs white space before it, and
no two may have one name. -/
def takeAttributes (seen : List (String × String)) : Nat → List Char → Option TagEnd
  | 0, _ => none
  | fuel + 1, cs =>
    match cs.dropWhile isSpace with
    | '>' :: rest => some ⟨seen.reverse, false, rest⟩
    | '/' :: '>' :: rest => some ⟨seen.reverse, true, rest⟩
    | body => do
      guard (cs.head?.any isSpace)
      let (name, rest) ← takeName body
      match rest.dropWhile isSpace with
      | '=' :: rest =>
        match rest.dropWhile isSpace with
        | quote :: rest =>
          guard (quote = '"' ∨ quote = '\'')
          let (value, rest) ← takeValue quote (rest.length + 1) rest
          let key := localName name
          guard ((seen.lookup key).isNone)
          takeAttributes ((key, String.ofList value) :: seen) fuel rest
        | [] => none
      | _ => none

/-- What follows the first occurrence of a run of characters. -/
def after? (mark : List Char) : List Char → Option (List Char)
  | [] => none
  | c :: cs =>
    if mark.isPrefixOf (c :: cs) then some ((c :: cs).drop mark.length) else after? mark cs

/-- Takes a comment off the front, after its opening; two hyphens end it. -/
def takeComment (cs : List Char) : Option (List Char) :=
  match after? ['-', '-'] cs with
  | some ('>' :: rest) => some rest
  | _ => none

/-- Reads on from a place in a document.  `opened` lists the names of the elements that are open, the
innermost first, and `rooted` says whether any element has been met.  Outermost elements may stand
side by side, but text has to be inside one. -/
def scanFrom (opened : List String) (rooted : Bool) : Nat → List Char → Stream
  | 0, _ => .malformed
  | fuel + 1, cs =>
    match cs with
    | [] => ⟨[], rooted && opened.isEmpty⟩
    | '<' :: '!' :: '-' :: '-' :: rest =>
      match takeComment rest with
      | some rest => scanFrom opened rooted fuel rest
      | none => .malformed
    | '<' :: '!' :: '[' :: 'C' :: 'D' :: 'A' :: 'T' :: 'A' :: '[' :: rest =>
      match after? [']', ']', '>'] rest, opened with
      | some rest, _ :: _ => scanFrom opened rooted fuel rest
      | _, _ => .malformed
    -- a document type stands in front of the first element
    | '<' :: '!' :: rest =>
      match after? ['>'] rest, rooted with
      | some rest, false => scanFrom opened rooted fuel rest
      | _, _ => .malformed
    | '<' :: '?' :: rest =>
      match takeName rest with
      | some (target, rest) =>
        -- a declaration at the very front has been skipped before
        if Text.lower target = ['x', 'm', 'l'] then .malformed
        else match after? ['?', '>'] rest with
          | some rest => scanFrom opened rooted fuel rest
          | none => .malformed
      | none => .malformed
    | '<' :: '/' :: rest =>
      match takeName rest, opened with
      | some (name, rest), innermost :: outer =>
        match rest.dropWhile isSpace with
        | '>' :: rest =>
          if String.ofList name = innermost then scanFrom outer rooted fuel rest else .malformed
        | _ => .malformed
      | _, _ => .malformed
    | '<' :: rest =>
      match takeName rest with
      | some (name, rest) =>
        match takeAttributes [] (rest.length + 1) rest with
        | some tag =>
          let opened := if tag.selfClosing then opened else String.ofList name :: opened
          (scanFrom opened true fuel tag.rest).push ⟨localName name, tag.attributes⟩
        | none => .malformed
      | none => .malformed
    | '&' :: rest =>
      match opened, (Text.splitOnce ';' rest).bind fun (body, rest) =>
          (reference? body).map fun _ => rest with
      | _ :: _, some rest => scanFrom opened rooted fuel rest
      | _, _ => .malformed
    | c :: rest =>
      if opened.isEmpty && !isSpace c then .malformed else scanFrom opened rooted fuel rest

/-- Skips a declaration, which may only stand at the very front. -/
def skipDeclaration (cs : List Char) : Option (List Char) :=
  match cs with
  | '<' :: '?' :: 'x' :: 'm' :: 'l' :: c :: rest =>
    if isSpace c then after? ['?', '>'] rest else some cs
  | _ => some cs

def scan (cs : List Char) : Stream :=
  match skipDeclaration cs with
  | some rest => scanFrom [] false (rest.length + 1) rest
  | none => .malformed

/-! ### Documents as bytes -/

/-- The text of the longest valid front of a byte string, at most `n` bytes. -/
def decodeFront (bytes : ByteArray) : Nat → List Char
  | 0 => []
  | n + 1 =>
    match String.fromUTF8? (bytes.extract 0 (n + 1)) with
    | some s => s.toList
    | none => decodeFront bytes n

/-- Reads a document from bytes; the first byte that is not UTF-8 is a malformed place. -/
def scanBytes (bytes : ByteArray) : Stream :=
  match String.fromUTF8? bytes with
  | some s => scan s.toList
  | none => { scan (decodeFront bytes bytes.size) with wellFormed := false }

end LinProg.Xml
