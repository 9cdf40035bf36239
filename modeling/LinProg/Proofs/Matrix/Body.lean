import Mathlib
import LinProg.Proofs.Reconcile

/-!
# What edits do to a body

An edit that refers to columns and rows that exist keeps a body sound: `sound_apply`.  What it does to
one row is told row by row; an edit that leaves a row alone may rename it: `sameRow_apply`.
-/

namespace LinProg

/-! ### Edits -/

namespace Edit

def newColumns : Edit → Nat
  | addColumns columns => columns.length
  | addColumn _ _ => 1
  | _ => 0

def newRows : Edit → Nat
  | addRow _ => 1
  | _ => 0

/-- The entries that the edit brings refer to columns that exist, given their count. -/
def Fits (columns : Nat) : Edit → Prop
  | addRow row => ∀ t ∈ row.entries, t.1 < columns
  | changeCoefficients batch => ∀ t ∈ batch, t.2.1 < columns
  | _ => True

/-- The edit touches neither the coefficients nor the right hand side of a row. -/
def LeavesRow (row : Nat) : Edit → Prop
  | addColumn _ memberships => ∀ t ∈ memberships, t.1 ≠ row
  | changeCoefficients batch => ∀ t ∈ batch, t.1 ≠ row
  | setRhs changed _ => changed ≠ row
  | _ => True

end Edit

namespace Body

variable {b : Body} {columns rows : Nat}

/-! ### Rows and columns -/

theorem getElem?_modifyRow (b : Body) (i j : Nat) (f : MatrixRow → MatrixRow) :
    (b.modifyRow i f).rows[j]? = if i = j then b.rows[j]?.map f else b.rows[j]? := by
  show (b.rows.modify i f)[j]? = _
  rw [List.getElem?_modify]
  split
  · rfl
  · cases b.rows[j]? <;> rfl

/-- Each membership becomes an entry at the end of its row. -/
theorem getElem?_pushAll (b : Body) (column : Nat) (memberships : List (Nat × Float)) (j : Nat) :
    (memberships.foldl (fun b t => b.modifyRow t.1 fun r => r.push column t.2) b).rows[j]? =
      b.rows[j]?.map fun r =>
        { r with entries := r.entries ++ (valuesAt j memberships).map (column, ·) } := by
  induction memberships generalizing b with
  | nil =>
    rw [List.foldl_nil, valuesAt_nil, List.map_nil]
    simp only [List.append_nil, Option.map_id']
  | cons t rest ih =>
    rw [List.foldl_cons, ih, getElem?_modifyRow, valuesAt_cons]
    split
    · cases b.rows[j]? with
      | none => rfl
      | some r => simp [MatrixRow.push]
    · rfl

theorem getElem?_addColumn (b : Body) (c : MatrixColumn) (memberships : List (Nat × Float))
    (j : Nat) :
    (b.addColumn c memberships).rows[j]? = b.rows[j]?.map fun r =>
      { r with entries := r.entries ++ (valuesAt j memberships).map (b.columns.length, ·) } :=
  getElem?_pushAll _ _ memberships j

/-- The changes that a batch makes to one row. -/
def batchAt (j : Nat) (batch : List (Nat × Nat × Float)) : List (Nat × Float) :=
  (batch.filter (·.1 = j)).map (·.2)

theorem batchAt_cons (j : Nat) (t : Nat × Nat × Float) (batch : List (Nat × Nat × Float)) :
    batchAt j (t :: batch) = if t.1 = j then t.2 :: batchAt j batch else batchAt j batch := by
  unfold batchAt
  rw [List.filter_cons]
  by_cases same : t.1 = j
  · rw [if_pos (decide_eq_true same), if_pos same, List.map_cons]
  · rw [if_neg (by simpa using same), if_neg same]

theorem getElem?_changeCoefficients (b : Body) (batch : List (Nat × Nat × Float)) (j : Nat) :
    (b.changeCoefficients batch).rows[j]? = b.rows[j]?.map fun r =>
      { r with entries := setEntries r.entries (batchAt j batch) } := by
  unfold changeCoefficients
  induction batch generalizing b with
  | nil => exact (Option.map_id' ..).symm
  | cons t rest ih =>
    rw [List.foldl_cons, ih, getElem?_modifyRow, batchAt_cons]
    split
    · cases b.rows[j]? <;> rfl
    · rfl

theorem rows_addToObjective (b : Body) (terms : List (Nat × Float)) :
    (b.addToObjective terms).rows = b.rows := by
  unfold addToObjective
  induction terms generalizing b with
  | nil => rfl
  | cons t rest ih => exact ih _

theorem length_columns_addToObjective (b : Body) (terms : List (Nat × Float)) :
    (b.addToObjective terms).columns.length = b.columns.length := by
  unfold addToObjective
  induction terms generalizing b with
  | nil => rfl
  | cons t rest ih => exact (ih _).trans (List.length_modify ..)

theorem rows_setObjective (b : Body) (terms : List (Nat × Float)) (constant : Float)
    (sense : Sense) : (b.setObjective terms constant sense).rows = b.rows :=
  rows_addToObjective _ terms

theorem length_columns_setObjective (b : Body) (terms : List (Nat × Float)) (constant : Float)
    (sense : Sense) : (b.setObjective terms constant sense).columns.length = b.columns.length :=
  (length_columns_addToObjective _ terms).trans (List.length_map ..)

theorem columns_pushAll (b : Body) (column : Nat) (memberships : List (Nat × Float)) :
    (memberships.foldl (fun b t => b.modifyRow t.1 fun r => r.push column t.2) b).columns =
      b.columns := by
  induction memberships generalizing b with
  | nil => rfl
  | cons t rest ih => exact ih _

theorem columns_changeCoefficients (b : Body) (batch : List (Nat × Nat × Float)) :
    (b.changeCoefficients batch).columns = b.columns := by
  unfold changeCoefficients
  induction batch generalizing b with
  | nil => rfl
  | cons t rest ih => exact ih _

theorem length_columns_apply (b : Body) (e : Edit) :
    (b.apply e).columns.length = b.columns.length + e.newColumns := by
  cases e with
  | addColumns columns => exact List.length_append
  | addColumn c memberships =>
    refine (congrArg List.length (columns_pushAll _ _ memberships)).trans ?_
    exact List.length_append
  | addRow row => rfl
  | setObjective terms constant sense => exact length_columns_setObjective b terms constant sense
  | changeCoefficients batch => exact congrArg List.length (columns_changeCoefficients b batch)
  | setRhs row value => rfl
  | setObjectiveCoefficient column value => exact List.length_modify ..
  | setDomain column domain => exact List.length_modify ..
  | setColumnName column name => exact List.length_modify ..
  | setRowName row name => rfl

theorem length_rows_modifyRow (b : Body) (row : Nat) (f : MatrixRow → MatrixRow) :
    (b.modifyRow row f).rows.length = b.rows.length := List.length_modify ..

theorem length_rows_pushAll (b : Body) (column : Nat) (memberships : List (Nat × Float)) :
    (memberships.foldl (fun b t => b.modifyRow t.1 fun r => r.push column t.2) b).rows.length =
      b.rows.length := by
  induction memberships generalizing b with
  | nil => rfl
  | cons t rest ih => exact (ih _).trans (length_rows_modifyRow ..)

theorem length_rows_changeCoefficients (b : Body) (batch : List (Nat × Nat × Float)) :
    (b.changeCoefficients batch).rows.length = b.rows.length := by
  unfold changeCoefficients
  induction batch generalizing b with
  | nil => rfl
  | cons t rest ih => exact (ih _).trans (length_rows_modifyRow ..)

theorem length_rows_apply (b : Body) (e : Edit) :
    (b.apply e).rows.length = b.rows.length + e.newRows := by
  cases e with
  | addColumns columns => rfl
  | addColumn c memberships => exact length_rows_pushAll _ _ memberships
  | addRow row => exact List.length_append
  | setObjective terms constant sense =>
    exact congrArg List.length (rows_setObjective b terms constant sense)
  | changeCoefficients batch => exact length_rows_changeCoefficients b batch
  | setRhs row value => exact length_rows_modifyRow ..
  | setObjectiveCoefficient column value => rfl
  | setDomain column domain => rfl
  | setColumnName column name => rfl
  | setRowName row name => exact length_rows_modifyRow ..

/-! ### Soundness -/

/-- The body has some columns and rows, and the entries of the rows refer to the columns. -/
structure Sound (b : Body) (columns rows : Nat) : Prop where
  columnCount : b.columns.length = columns
  rowCount : b.rows.length = rows
  within : ∀ r ∈ b.rows, ∀ t ∈ r.entries, t.1 < columns

theorem Sound.within_of_getElem? (sound : b.Sound columns rows) {i : Nat} {r : MatrixRow}
    (present : b.rows[i]? = some r) : ∀ t ∈ r.entries, t.1 < columns :=
  sound.within r (List.mem_of_getElem? present)

theorem within_modifyRow (within : ∀ r ∈ b.rows, ∀ t ∈ r.entries, t.1 < columns) (row : Nat)
    {f : MatrixRow → MatrixRow} (same : ∀ r, (f r).entries = r.entries) :
    ∀ r ∈ (b.modifyRow row f).rows, ∀ t ∈ r.entries, t.1 < columns := by
  intro r member
  obtain ⟨j, found⟩ := List.mem_iff_getElem?.1 member
  rw [getElem?_modifyRow] at found
  split at found
  · obtain ⟨r', present, rfl⟩ := Option.map_eq_some_iff.1 found
    rw [same]
    exact within r' (List.mem_of_getElem? present)
  · exact within r (List.mem_of_getElem? found)

theorem mem_batchAt {j : Nat} {batch : List (Nat × Nat × Float)} {u : Nat × Float}
    (member : u ∈ batchAt j batch) : ∃ t ∈ batch, t.2 = u := by
  obtain ⟨t, picked, same⟩ := List.mem_map.1 member
  exact ⟨t, List.mem_of_mem_filter picked, same⟩

theorem sound_apply (sound : b.Sound columns rows) {e : Edit} (fits : e.Fits columns) :
    (b.apply e).Sound (columns + e.newColumns) (rows + e.newRows) := by
  refine ⟨?_, ?_, ?_⟩
  · rw [length_columns_apply, sound.columnCount]
  · rw [length_rows_apply, sound.rowCount]
  cases e with
  | addColumns added =>
    intro r member t listed
    exact Nat.lt_add_right _ (sound.within r member t listed)
  | addColumn c memberships =>
    intro r member t listed
    obtain ⟨j, found⟩ := List.mem_iff_getElem?.1 member
    rw [apply, getElem?_addColumn] at found
    obtain ⟨r', present, rfl⟩ := Option.map_eq_some_iff.1 found
    rcases List.mem_append.1 listed with old | new
    · exact Nat.lt_succ_of_lt (sound.within_of_getElem? present t old)
    · obtain ⟨x, -, rfl⟩ := List.mem_map.1 new
      exact sound.columnCount ▸ Nat.lt_succ_self _
  | addRow row =>
    intro r member
    rcases List.mem_append.1 member with old | new
    · exact sound.within r old
    · rw [List.mem_singleton.1 new]
      exact fits
  | setObjective terms constant sense =>
    rw [apply, rows_setObjective]
    exact sound.within
  | changeCoefficients batch =>
    intro r member t listed
    obtain ⟨j, found⟩ := List.mem_iff_getElem?.1 member
    rw [apply, getElem?_changeCoefficients] at found
    obtain ⟨r', present, rfl⟩ := Option.map_eq_some_iff.1 found
    rcases mem_setEntries listed with old | new
    · exact sound.within_of_getElem? present t old
    · obtain ⟨u, given, rfl⟩ := mem_batchAt new
      exact fits u given
  | setRhs row value => exact within_modifyRow sound.within row fun _ => rfl
  | setObjectiveCoefficient column value => exact sound.within
  | setDomain column domain => exact sound.within
  | setColumnName column name => exact sound.within
  | setRowName row name => exact within_modifyRow sound.within row fun _ => rfl

/-! ### One row -/

/-- A row that exists in the first body is in the second one too, but for its name. -/
def SameRow (i : Nat) (b c : Body) : Prop :=
  ∀ r, b.rows[i]? = some r → ∃ name, c.rows[i]? = some { r with name }

theorem SameRow.refl (i : Nat) (b : Body) : SameRow i b b := fun r present => ⟨r.name, present⟩

theorem SameRow.trans {i : Nat} {b c d : Body} (h : SameRow i b c) (h' : SameRow i c d) :
    SameRow i b d := by
  intro r present
  obtain ⟨name, there⟩ := h r present
  exact h' { r with name } there

/-- An edit that leaves a row alone renames it at most. -/
theorem sameRow_apply {i : Nat} {e : Edit} (leaves : e.LeavesRow i) (b : Body) :
    SameRow i b (b.apply e) := by
  intro r present
  cases e with
  | addColumn c memberships =>
    have absent : valuesAt i memberships = [] := valuesAt_eq_nil leaves
    refine ⟨r.name, ?_⟩
    rw [apply, getElem?_addColumn, present, absent, Option.map_some, List.map_nil, List.append_nil]
  | addRow row =>
    refine ⟨r.name, ?_⟩
    exact (List.getElem?_append_left (List.getElem?_eq_some_iff.1 present).1).trans present
  | setObjective terms constant sense =>
    rw [apply, rows_setObjective]
    exact ⟨r.name, present⟩
  | changeCoefficients batch =>
    have absent : batchAt i batch = [] := by
      unfold batchAt
      rw [List.map_eq_nil_iff, List.filter_eq_nil_iff]
      intro t member
      simpa using leaves t member
    refine ⟨r.name, ?_⟩
    rw [apply, getElem?_changeCoefficients, present, absent]
    rfl
  | setRhs row value =>
    refine ⟨r.name, ?_⟩
    rw [apply, getElem?_modifyRow, if_neg leaves]
    exact present
  | setRowName row name =>
    rw [apply, getElem?_modifyRow, present]
    split
    · exact ⟨some name, rfl⟩
    · exact ⟨r.name, rfl⟩
  | _ => exact ⟨r.name, present⟩

end Body

end LinProg
