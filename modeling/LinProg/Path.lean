import LinProg.Text.Words

/-!
# Paths

Paths lead through one directory that is above itself and has no other directory in it.  Model files
are recognized by the extension of their path.
-/

namespace LinProg

inductive FileError where
  | notFound
  | notDirectory
  | isDirectory
  | nameTooLong
  | notUtf8
deriving DecidableEq, Repr

def FileError.message : FileError → String
  | notFound => "No such file or directory (os error 2)"
  | notDirectory => "Not a directory (os error 20)"
  | isDirectory => "Is a directory (os error 21)"
  | nameTooLong => "File name too long (os error 36)"
  | notUtf8 => "stream did not contain valid UTF-8"

/-- What stands between the slashes of a path. -/
def pathParts (path : String) : List (List Char) := Text.pieces (· == '/') path.toList

/-- The extension of the last component of a path: what follows its last point, unless that point
is its first character. -/
def extension? (path : String) : Option (List Char) :=
  let components := (pathParts path).filter (fun c => c ≠ [] ∧ c ≠ ['.'])
  match components.getLast? with
  | none => none
  | some component =>
    if component = ['.', '.'] then none
    else match (Text.pieces (· == '.') component).reverse with
      | _ :: [] | _ :: [[]] | [] => none
      | last :: _ => some last

def isModelFile (path : String) : Bool :=
  match extension? path with
  | some ext => Text.lower ext = ['l', 'p']
  | none => false

/-- Where a path leads: to the directory itself, to a name in it, to a name that a slash at the end
declares a directory, or to something in a directory of that name. -/
inductive Place where
  | directory
  | entry (name : String)
  | slashed (name : String)
  | beneath (name : String)
deriving DecidableEq, Repr

namespace Place

/-- Whether a part of a path leads from the directory to itself. -/
def stays (part : List Char) : Bool := part = [] || part = ['.'] || part = ['.', '.']

def ofParts : List (List Char) → Place
  | [] => directory
  | part :: rest =>
    if stays part then ofParts rest
    else if rest.isEmpty then entry (String.ofList part)
    else if rest.all List.isEmpty then slashed (String.ofList part)
    else beneath (String.ofList part)

/-- Whether a name can be in a directory: it has at most 255 bytes. -/
def fits (name : String) : Bool := name.utf8ByteSize ≤ 255

/-- Where a path leads.  The empty path leads nowhere, and no name is too long. -/
def ofPath (path : String) : Except FileError Place :=
  if path = "" then .error .notFound
  else
    let place := ofParts (pathParts path)
    match place with
    | directory => .ok place
    | entry name | slashed name | beneath name =>
      if fits name then .ok place else .error .nameTooLong

end Place

end LinProg
