import LinProg.Path

/-!
# Files

A disk holds the files of one directory.  A file that was written reads back until it is removed:
`read_write`, `readText_write`, `read_remove`.
-/

namespace LinProg

/-- The files of a directory by name.  The latest content of a name stands first. -/
structure Disk where
  files : List (String × ByteArray)

namespace Disk

def empty : Disk := ⟨[]⟩

/-- Why nothing can be beneath a name: it is a file, or there is no such name. -/
def beneathError (d : Disk) (name : String) : FileError :=
  if (d.files.lookup name).isSome then .notDirectory else .notFound

def read (d : Disk) (path : String) : Except FileError ByteArray :=
  match Place.ofPath path with
  | .error cause => .error cause
  | .ok .directory => .error .isDirectory
  | .ok (.entry name) =>
    match d.files.lookup name with
    | some content => .ok content
    | none => .error .notFound
  | .ok (.slashed name) | .ok (.beneath name) => .error (d.beneathError name)

def readText (d : Disk) (path : String) : Except FileError String :=
  match d.read path with
  | .error cause => .error cause
  | .ok bytes =>
    match String.fromUTF8? bytes with
    | some text => .ok text
    | none => .error .notUtf8

def remove (d : Disk) (path : String) : Disk :=
  match Place.ofPath path with
  | .ok (.entry name) => ⟨d.files.filter (·.1 ≠ name)⟩
  | _ => d

def write (d : Disk) (path : String) (content : ByteArray) : Except FileError Disk :=
  match Place.ofPath path with
  | .error cause => .error cause
  | .ok .directory | .ok (.slashed _) => .error .isDirectory
  | .ok (.entry name) => .ok ⟨(name, content) :: (d.remove path).files⟩
  | .ok (.beneath name) => .error (d.beneathError name)

theorem read_write {d e : Disk} {path : String} {content : ByteArray}
    (h : d.write path content = .ok e) : e.read path = .ok content := by
  unfold write at h
  split at h <;> simp only [reduceCtorEq, Except.ok.injEq] at h
  subst h
  simp [read, *]

theorem readText_write {d e : Disk} {path text : String} (h : d.write path text.toUTF8 = .ok e) :
    e.readText path = .ok text := by
  have decoded : String.fromUTF8? text.toUTF8 = some text := dif_pos text.isValidUTF8
  unfold readText
  rw [read_write h]
  dsimp only
  rw [decoded]

theorem write_write {d e : Disk} {path : String} {content : ByteArray}
    (h : d.write path content = .ok e) : e.write path content = .ok e := by
  unfold write remove at h ⊢
  split at h <;> simp only [reduceCtorEq, Except.ok.injEq] at h
  subst h
  simp [*]

theorem read_remove {d : Disk} {path : String} {content : ByteArray} :
    (d.remove path).read path ≠ .ok content := by
  unfold read remove
  split
  · simp
  · simp
  · rename_i name h
    have absent : (d.files.filter (·.1 ≠ name)).lookup name = none := by
      simp only [List.lookup_eq_none_iff, List.mem_filter]
      grind
    simp only [h, absent]
    simp
  · simp
  · simp

end Disk

end LinProg
