import LinProg.Matrix.File
import LinProg.Model.Objective
import LinProg.Model.Rows
import LinProg.Model.Solution
import LinProg.Model.Variables

/-!
# Workspaces

A workspace has the files that models are written to and read from, and draws the identities of
models.  An identity is never drawn twice, so that a handle belongs to one model at most.
-/

namespace LinProg

/-- The files of a workspace and the next identity to draw. -/
structure Workspace where
  disk : Disk
  nextId : Nat

namespace Workspace

def empty : Workspace := ⟨.empty, 0⟩

def createModel (w : Workspace) (name : String) (env : Environment) : Model × Workspace :=
  (.create w.nextId name env, { w with nextId := w.nextId + 1 })

/-- Replaces the content of a model by that of a model file.  The model gets a new identity, so that
every handle on the old content becomes invalid. -/
def importModel (w : Workspace) (path : String) (m : Model) :
    Except ModelError Unit × Model × Workspace :=
  match Matrix.readFrom w.disk path with
  | .error cause => (.error (.matrix cause), m, w)
  | .ok matrix =>
    let imported : Model :=
      { m with
        id := w.nextId
        matrix
        generation := 0
        handles := Model.handlesOf w.nextId 0 matrix.body.columns }
    (.ok (), imported, { w with nextId := w.nextId + 1 })

/-- Flushes a model and writes it to a model file. -/
def exportModel (w : Workspace) (path : String) (m : Model) :
    Except ModelError Unit × Model × Workspace :=
  match Model.onMatrix (Matrix.writeTo w.disk path) m with
  | .ok disk m => (.ok (), m, { w with disk })
  | .error cause m => (.error cause, m, w)

def write (w : Workspace) (path : String) (content : ByteArray) : Except FileError Workspace :=
  (w.disk.write path content).map fun disk => { w with disk }

/-- The host for one solve: the files of the workspace with some programs installed. -/
def host (w : Workspace) (installed : List (String × List Response)) : Host :=
  ⟨w.disk, installed, []⟩

/-- The workspace with the files that a host left. -/
def adopt (w : Workspace) (h : Host) : Workspace := { w with disk := h.disk }

end Workspace

end LinProg
