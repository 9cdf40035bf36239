import Mathlib
import LinProg.Proofs.Matrix.Growth

/-!
# Reconciling a row of a matrix

A delta between two lists of entries, carried out on a row in one batch, sets the columns of both lists to
the net coefficients that are desired, and nothing else: `between_reconciles`.
-/

namespace LinProg

namespace Body

/-- Changes to one row are one change of its entries. -/
theorem changeCoefficients_row (b : Body) (i : Nat) (entries : List (Nat × Float)) :
    b.changeCoefficients (entries.map fun t => (i, t)) =
      b.modifyRow i fun r => { r with entries := setEntries r.entries entries } := by
  unfold changeCoefficients modifyRow
  induction entries generalizing b with
  | nil =>
    show b = { b with rows := b.rows.modify i id }
    rw [List.modify_id]
  | cons t rest ih =>
    rw [List.map_cons, List.foldl_cons, ih, List.modify_modify_eq]
    rfl

theorem modifyRow_eq_set {b : Body} {i : Nat} {row : MatrixRow} (present : b.rows[i]? = some row)
    (f : MatrixRow → MatrixRow) :
    b.modifyRow i f = { b with rows := b.rows.set i (f row) } := by
  unfold modifyRow
  rw [List.modify_eq_set_getElem?, present]
  rfl

end Body

namespace Model

def deltaBatch (row : Nat) (delta : RowDelta) : List (Nat × Nat × Float) :=
  (List.replicate delta.columns.length row).zip (delta.columns.zip delta.values)

theorem deltaBatch_eq (row : Nat) (delta : RowDelta) :
    deltaBatch row delta = delta.target.toList.map fun t => (row, t) := by
  have pairs : delta.columns.zip delta.values = delta.target.toList := by
    show (delta.target.toList.map Prod.fst).zip (delta.target.toList.map Prod.snd) = _
    rw [List.zip_map', List.map_id']
  have length : delta.columns.length = delta.target.toList.length := List.length_map ..
  unfold deltaBatch
  rw [pairs, length]
  generalize delta.target.toList = entries
  induction entries with
  | nil => rfl
  | cons t rest ih => rw [List.length_cons, List.replicate_succ, List.zip_cons_cons, ih, List.map_cons]

theorem changeCoefficients_delta {x : Matrix} {row : Nat} {delta : RowDelta}
    (within : row < x.rowCount) (columns : ∀ t ∈ delta.target.toList, t.1 < x.columnCount) :
    Matrix.changeCoefficients (List.replicate delta.columns.length row) delta.columns
        delta.values x =
      .ok ⟨⟩ (x.extended (.changeCoefficients (deltaBatch row delta))) := by
  refine (Matrix.queues_changeCoefficients ..).ok_iff.2 ⟨⟨?_, ?_, ?_⟩, rfl, rfl⟩
  · simp [LengthMismatch.check]
  · simp [LengthMismatch.check, RowDelta.columns, RowDelta.values, Sparse.keys]
  · show ∀ t ∈ deltaBatch row delta, t.1 < _ ∧ t.2.1 < _
    rw [deltaBatch_eq]
    intro t member
    obtain ⟨u, listed, rfl⟩ := List.mem_map.1 member
    exact ⟨within, columns u listed⟩

end Model

namespace RowDelta

/-- A delta lists the columns of both lists in order, and tells whether the desired coefficients are there
already.  Where the row exists, its batch takes the row to the desired coefficients and leaves everything
else as it was. -/
theorem between_reconciles (installed desired : List (Nat × Float)) :
    let d := between installed desired
    d.columns.Pairwise (· < ·) ∧
      (∀ j, j ∈ d.columns ↔ ∃ t ∈ installed ++ desired, t.1 = j) ∧
      (d.isNoop = true ↔ (∀ t ∈ desired, ∃ u ∈ installed, u.1 = t.1) ∧
        ∀ j, ((netCoefficients installed).getD j == (netCoefficients desired).getD j) = true) ∧
      ∀ (m : Matrix) (i : Nat) (row : MatrixRow), m.Sound → m.flush.body.rows[i]? = some row →
        row.entries = installed → (∀ t ∈ desired, t.1 < m.columnCount) →
        ∃ n entries, Matrix.changeCoefficients (List.replicate d.columns.length i) d.columns
            d.values m = .ok ⟨⟩ n ∧
          n.flush.body = { m.flush.body with rows := m.flush.body.rows.set i { row with entries } } ∧
          (∀ j, valuesAt j entries =
            if j ∈ d.columns then [(netCoefficients desired).getD j] else []) ∧
          (∀ t ∈ installed, (∀ u ∈ desired, u.1 ≠ t.1) → valuesAt t.1 entries = [0]) ∧
          ∀ j, ((netCoefficients desired).getD j).isNaN = false →
            ((netCoefficients entries).getD j == (netCoefficients desired).getD j) = true := by
  intro d
  refine ⟨d.sorted_columns, fun j => mem_columns_iff, isNoop_iff, ?_⟩
  intro m i row sound present same within
  have there : i < m.rowCount := by
    rw [← Body.Sound.rowCount sound]
    exact (List.getElem?_eq_some_iff.1 present).1
  have columns : ∀ t ∈ d.target.toList, t.1 < m.columnCount := by
    intro t listed
    obtain ⟨u, member, here⟩ := mem_target listed
    rw [← here]
    rcases List.mem_append.1 member with old | new
    · exact Body.Sound.within_of_getElem? sound present u (same ▸ old)
    · exact within u new
  refine ⟨_, setEntries installed d.target.toList, Model.changeCoefficients_delta there columns, ?_,
    valuesAt_setEntries_target, ?_, fun j => (agrees_setEntries_target j).beq⟩
  · rw [Matrix.body_flush_extended, Model.deltaBatch_eq, Body.apply, Body.changeCoefficients_row,
      Body.modifyRow_eq_set present, same]
  · intro t member absent
    have listed : t.1 ∈ d.columns := mem_columns_iff.2 ⟨t, List.mem_append_left desired member, rfl⟩
    rw [valuesAt_setEntries_target, if_pos listed, getD_netCoefficients_of_absent absent]

/-- A row that lists a column twice, in a matrix of three columns. -/
def unreconciled : MatrixRow := ⟨[(0, 1), (1, 2), (0, -1)], .le, 4, none⟩

def unreconciledMatrix : Matrix :=
  let columns := List.replicate 3 ⟨0, 1, 0, .continuous, none⟩
  ((Matrix.empty "test").extended (.addColumns columns)).extended (.addRow unreconciled)

/-- The column that is listed twice goes to zero, and a new one is listed. -/
theorem between_reconciles_unreconciled :
    unreconciledMatrix.Sound ∧ unreconciledMatrix.flush.body.rows[0]? = some unreconciled ∧
      ∃ n entries, Matrix.changeCoefficients [0, 0, 0] [0, 1, 2] [0, 2, 5] unreconciledMatrix =
          .ok ⟨⟩ n ∧
        n.flush.body.rows = [{ unreconciled with entries }] ∧ valuesAt 0 entries = [0] ∧
        ∀ j, ((netCoefficients [(2, 5), (1, 2)]).getD j).isNaN = false →
          ((netCoefficients entries).getD j == (netCoefficients [(2, 5), (1, 2)]).getD j) = true := by
  have fits : ∀ t ∈ unreconciled.entries, t.1 < 3 := by decide
  have sound : unreconciledMatrix.Sound := by
    refine Matrix.Sound.extended (Matrix.Sound.extended (Matrix.sound_empty "test") ?_) fits
    trivial
  have present : unreconciledMatrix.flush.body.rows[0]? = some unreconciled := by decide +kernel
  have within : ∀ t ∈ [((2 : Nat), (5 : Float)), (1, 2)], t.1 < unreconciledMatrix.columnCount := by
    decide
  obtain ⟨-, -, -, batch⟩ := between_reconciles unreconciled.entries [(2, 5), (1, 2)]
  obtain ⟨n, entries, accepted, body, -, cleared, net⟩ :=
    batch unreconciledMatrix 0 unreconciled sound present rfl within
  have columns : (between unreconciled.entries [(2, 5), (1, 2)]).columns = [0, 1, 2] := by
    decide +kernel
  have values : (between unreconciled.entries [(2, 5), (1, 2)]).values = [0, 2, 5] := by
    decide +kernel
  rw [columns, values] at accepted
  refine ⟨sound, present, n, entries, accepted, ?_, cleared (0, 1) ?_ ?_, net⟩
  · rw [body]
    rfl
  · exact List.mem_cons_self
  · decide

end RowDelta

end LinProg
