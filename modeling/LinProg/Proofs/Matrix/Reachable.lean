import Mathlib
import LinProg.Proofs.Matrix.File
import LinProg.Proofs.Matrix.Growth

/-!
# The matrices that operations lead to

Every operation, whether it succeeds or fails, keeps a matrix sound: `sound_step`.  So every matrix
that operations lead to is sound.
-/

namespace LinProg.Matrix
open Operation

variable {m n : Matrix} {α : Type} {op : MatrixM α} {accepts : Matrix → Prop}
  {value : Matrix → α} {e : Edit} {columns rows : Nat}

/-- An operation on a matrix, whether it succeeds or fails. -/
inductive Step (m : Matrix) : Matrix → Prop where
  | addColumns (lowers uppers : List Float) (objectives : Option (List Float))
      (domains : Option (List Domain)) (names : Option (List (Option String))) :
      Step m (final (addColumns lowers uppers objectives domains names m))
  | addColumn (column : MatrixColumn) (memberships : List (Nat × Float)) :
      Step m (final (addColumn column memberships m))
  | addRow (terms : List (Nat × Float)) (relation : Relation) (rhs : Float)
      (name : Option String) : Step m (final (addRow terms relation rhs name m))
  | setObjective (terms : List (Nat × Float)) (constant : Float) (sense : Sense) :
      Step m (final (setObjective terms constant sense m))
  | changeCoefficients (rows columns : List Nat) (values : List Float) :
      Step m (final (changeCoefficients rows columns values m))
  | setRhs (row : Nat) (rhs : Float) : Step m (final (setRhs row rhs m))
  | setObjectiveCoefficient (column : Nat) (coefficient : Float) :
      Step m (final (setObjectiveCoefficient column coefficient m))
  | setDomain (column : Nat) (domain : Domain) : Step m (final (setDomain column domain m))
  | setColumnName (column : Nat) (name : String) : Step m (final (setColumnName column name m))
  | setRowName (row : Nat) (name : String) : Step m (final (setRowName row name m))
  | flush : Step m m.flush
  | optimize (solver : Solver) (params : Params) (host : Host) :
      Step m (m.optimize solver params host).2.1
  | writeTo (disk : Disk) (path : String) : Step m (final (writeTo disk path m))

/-- The matrices that operations lead to, from an empty matrix or from a model file. -/
inductive Reachable : Matrix → Prop where
  | empty (name : String) : Reachable (empty name)
  | readFrom {disk : Disk} {path : String} {m : Matrix} :
      readFrom disk path = .ok m → Reachable m
  | step {m n : Matrix} : Reachable m → Step m n → Reachable n

theorem Queues.sound (queues : Queues op accepts value e columns rows) (sound : m.Sound)
    (fits : accepts m → e.Fits m.columnCount ∧ m.grown e columns rows = m.extended e) :
    (final (op m)).Sound := by
  cases result : op m with
  | ok a n =>
    obtain ⟨accepted, -, rfl⟩ := queues.ok_iff.1 result
    obtain ⟨within, adds⟩ := fits accepted
    show (m.grown e columns rows).Sound
    rw [adds]
    exact sound.extended within
  | error cause n =>
    show n.Sound
    rw [queues.harmless.of_error result]
    exact sound

theorem sound_step (step : Step m n) (sound : m.Sound) : n.Sound := by
  cases step with
  | addColumns lowers uppers objectives domains names =>
    refine (queues_addColumns lowers uppers objectives domains names).sound sound ?_
    rintro ⟨lengths, -⟩
    have same := length_eq_of_check lengths
    exact ⟨trivial, (extended_addColumns same objectives domains names).symm⟩
  | addColumn column memberships =>
    exact (queues_addColumn column memberships).sound sound fun _ => ⟨trivial, rfl⟩
  | addRow terms relation rhs name =>
    exact (queues_addRow terms relation rhs name).sound sound fun within => ⟨within, rfl⟩
  | setObjective terms constant sense =>
    exact (queues_setObjective terms constant sense).sound sound fun _ => ⟨trivial, rfl⟩
  | changeCoefficients rows columns values =>
    refine (queues_changeCoefficients rows columns values).sound sound ?_
    rintro ⟨-, -, within⟩
    exact ⟨fun t listed => (within t listed).2, rfl⟩
  | setRhs row rhs => exact (queues_setRhs row rhs).sound sound fun _ => ⟨trivial, rfl⟩
  | setObjectiveCoefficient column coefficient =>
    exact (queues_setObjectiveCoefficient column coefficient).sound sound fun _ => ⟨trivial, rfl⟩
  | setDomain column domain =>
    exact (queues_setDomain column domain).sound sound fun _ => ⟨trivial, rfl⟩
  | setColumnName column name =>
    exact (queues_setColumnName column name).sound sound fun _ => ⟨trivial, rfl⟩
  | setRowName row name => exact (queues_setRowName row name).sound sound fun _ => ⟨trivial, rfl⟩
  | flush => exact sound.flush
  | optimize solver params host =>
    obtain ⟨body, columns, rows⟩ := flush_optimize m solver params host
    unfold Sound
    rw [body, columns, rows]
    exact sound
  | writeTo disk path =>
    cases result : writeTo disk path m with
    | ok after n =>
      obtain ⟨-, rfl, -⟩ := writeTo_ok_iff.1 result
      exact sound.flush
    | error cause n =>
      rcases writeTo_error result with rfl | rfl
      · exact sound
      · exact sound.flush

theorem Reachable.sound (reach : m.Reachable) : m.Sound := by
  induction reach with
  | empty name => exact sound_empty name
  | readFrom read =>
    obtain ⟨-, text, d, -, -, rfl⟩ := readFrom_ok_iff.1 read
    exact sound_ofDocument d
  | step _ step ih => exact sound_step step ih

end LinProg.Matrix
