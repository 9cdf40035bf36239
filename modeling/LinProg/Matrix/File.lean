import LinProg.Lp.Reader
import LinProg.Matrix.Basic
import LinProg.Matrix.View

/-!
# Model files

A matrix is written as an LP text, without the constant of its objective, and read back from one.
-/

namespace LinProg.Matrix

/-- The body that a document describes.  Terms refer to variables by position. -/
def bodyOf (d : Lp.Document) : Body :=
  let index (terms : List (String × Float)) : List (Nat × Float) :=
    terms.filterMap fun (name, c) =>
      (d.declared.findIdx? (·.name = name)).map fun i => (i, c)
  let body : Body :=
    { columns := d.declared.map fun v => ⟨v.lower, v.upper, 0, v.domain, some v.name⟩
      rows := d.rows.map fun r => ⟨index r.terms, r.relation, r.rhs, some r.name⟩
      sense := d.sense
      constant := 0 }
  body.addToObjective (index d.objective)

def ofDocument (d : Lp.Document) : Matrix :=
  let body := bodyOf d
  { empty (if d.name = "" then defaultName else d.name) with
    body
    columnCount := body.columns.length
    rowCount := body.rows.length }

def readFrom (disk : Disk) (path : String) : Except MatrixError Matrix := do
  unless isModelFile path do throw (.unsupportedFormat path)
  match disk.readText path with
  | .error cause => throw (.file cause)
  | .ok text =>
    match Lp.read text with
    | .error cause => throw (.parse cause)
    | .ok d => return ofDocument d

/-- Flushes the matrix and writes it to a model file; returns the disk with that file. -/
def writeTo (disk : Disk) (path : String) : MatrixM Disk := do
  unless isModelFile path do throw (.unsupportedFormat path)
  flushM
  let m ← get
  match disk.write path (m.body.problem m.name).text.toUTF8 with
  | .ok disk => return disk
  | .error cause => throw (.file cause)

end LinProg.Matrix
