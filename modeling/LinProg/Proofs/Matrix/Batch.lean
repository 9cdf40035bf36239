import Mathlib
import LinProg.Proofs.Matrix.Columns
import LinProg.Proofs.Matrix.Reachable

/-!
# Batches of coefficients

A batch may name a column of a row several times, and the row may list it several times.  Afterwards the
row lists it once, at its first place, with the value that the batch gives last (`Rewrites`), and nothing
else has changed: `last_value_wins`.
-/

namespace LinProg

/-! ### First occurrences -/

/-- A list in which some numbers stay at their first place only. -/
def firstsOf (named : List Nat) : List Nat → List Nat
  | [] => []
  | c :: cs =>
    if c ∈ named then c :: (firstsOf named cs).filter (· ≠ c) else c :: firstsOf named cs

section FirstsOf

variable {named others cs ds : List Nat} {c : Nat}

theorem mem_firstsOf : c ∈ firstsOf named cs ↔ c ∈ cs := by
  induction cs with
  | nil => rfl
  | cons d ds ih =>
    rw [firstsOf]
    split
    · by_cases same : c = d <;> simp [ih, same]
    · rw [List.mem_cons, List.mem_cons, ih]

theorem firstsOf_append (apart : ∀ d ∈ ds, d ∉ named) :
    firstsOf named (cs ++ ds) = firstsOf named cs ++ ds := by
  induction cs with
  | nil =>
    induction ds with
    | nil => rfl
    | cons d ds ih =>
      obtain ⟨first, rest⟩ := List.forall_mem_cons.1 apart
      show firstsOf named (d :: ds) = d :: ds
      rw [firstsOf, if_neg first]
      exact congrArg (d :: ·) (ih rest)
  | cons c cs ih =>
    rw [List.cons_append, firstsOf, firstsOf, ih]
    split
    · rename_i listed
      have untouched : ds.filter (· ≠ c) = ds :=
        List.filter_eq_self.2 fun d member => decide_eq_true fun same => apart d member (same ▸ listed)
      rw [List.filter_append, untouched]
      rfl
    · rfl

theorem firstsOf_of_apart (apart : ∀ d ∈ ds, d ∉ named) : firstsOf named ds = ds :=
  show firstsOf named ([] ++ ds) = firstsOf named [] ++ ds from firstsOf_append apart

theorem filter_firstsOf (p : Nat → Bool) :
    (firstsOf named cs).filter p = firstsOf named (cs.filter p) := by
  induction cs with
  | nil => rfl
  | cons c cs ih =>
    by_cases stays : p c = true
    · rw [List.filter_cons_of_pos stays, firstsOf, firstsOf, ← ih]
      split
      · rw [List.filter_cons_of_pos stays, List.filter_comm]
      · rw [List.filter_cons_of_pos stays]
    · rw [List.filter_cons_of_neg stays, firstsOf, ← ih]
      split
      · rw [List.filter_cons_of_neg stays, List.filter_filter]
        refine List.filter_congr fun d _ => ?_
        by_cases same : d = c
        · simp [same, Bool.eq_false_iff.2 stays]
        · simp [same]
      · rw [List.filter_cons_of_neg stays]

theorem firstsOf_firstsOf (absent : c ∉ named) :
    firstsOf [c] (firstsOf named cs) = firstsOf (named ++ [c]) cs := by
  induction cs with
  | nil => rfl
  | cons d ds ih =>
    have other (listed : d ∈ named) : d ≠ c := fun same => absent (same ▸ listed)
    by_cases listed : d ∈ named
    · rw [firstsOf, if_pos listed, firstsOf, if_neg (by simpa using other listed),
        ← filter_firstsOf, ih, firstsOf, if_pos (List.mem_append_left _ listed)]
    · rw [firstsOf, if_neg listed, firstsOf, firstsOf, ih]
      simp [listed]

theorem firstsOf_congr (same : ∀ d, d ∈ named ↔ d ∈ others) :
    firstsOf named cs = firstsOf others cs := by
  induction cs with
  | nil => rfl
  | cons c cs ih => simp only [firstsOf, same, ih]

theorem firstsOf_of_count_le (once : cs.count c ≤ 1) : firstsOf [c] cs = cs := by
  induction cs with
  | nil => rfl
  | cons d ds ih =>
    rw [firstsOf]
    split
    · rename_i same
      obtain rfl := List.mem_singleton.1 same
      have none : d ∉ ds := by
        rw [List.count_cons_self] at once
        exact List.count_eq_zero.1 (by omega)
      have apart : ∀ e ∈ ds, e ∉ [d] := fun e member same =>
        none (List.mem_singleton.1 same ▸ member)
      rw [firstsOf_of_apart apart]
      exact congrArg (d :: ·) (List.filter_eq_self.2 fun e member =>
        decide_eq_true fun same => none (same ▸ member))
    · rw [ih (List.count_le_count_cons.trans once)]

/-- The columns that a row lists after a batch: named ones at their first places, and then new ones in the
order in which they are named first. -/
def columnsAfter (named before : List Nat) : List Nat :=
  firstsOf named before ++ named.eraseDups.filter (· ∉ before)

theorem mem_columnsAfter : c ∈ columnsAfter named cs ↔ c ∈ cs ∨ c ∈ named := by
  unfold columnsAfter
  rw [List.mem_append, mem_firstsOf, List.mem_filter, List.mem_eraseDups, decide_eq_true_iff]
  by_cases old : c ∈ cs <;> simp [old]

theorem columnsAfter_concat_of_mem (known : c ∈ named) :
    columnsAfter (named ++ [c]) cs = columnsAfter named cs := by
  have same : firstsOf (named ++ [c]) cs = firstsOf named cs := by
    refine firstsOf_congr fun d => ?_
    rw [List.mem_append, List.mem_singleton]
    exact or_iff_left_of_imp fun h => h ▸ known
  have none : [c].removeAll named = [] := by
    simp [List.removeAll, known]
  unfold columnsAfter
  rw [same, List.eraseDups_append, none, List.eraseDups_nil, List.append_nil]

theorem columnsAfter_concat_of_not_mem (unknown : c ∉ named) :
    columnsAfter (named ++ [c]) cs =
      firstsOf [c] (columnsAfter named cs) ++ if c ∈ cs then [] else [c] := by
  have apart : ∀ d ∈ named.eraseDups.filter (· ∉ cs), d ∉ [c] := by
    intro d fresh same
    obtain rfl := List.mem_singleton.1 same
    exact unknown (List.mem_eraseDups.1 (List.mem_of_mem_filter fresh))
  have one : [c].removeAll named = [c] := by
    simp [List.removeAll, unknown]
  have last : [c].eraseDups.filter (· ∉ cs) = if c ∈ cs then [] else [c] := by
    by_cases old : c ∈ cs <;> simp [List.eraseDups_cons, old]
  unfold columnsAfter
  rw [List.eraseDups_append, one, List.filter_append, last, firstsOf_append apart,
    firstsOf_firstsOf unknown, List.append_assoc]

end FirstsOf

/-! ### Rows -/

/-- What a batch for one row makes of its entries. -/
structure Rewrites (batch before after : List (Nat × Float)) : Prop where
  /-- A column of the batch is listed once, with the last value that it is given. -/
  last : ∀ c v, (valuesAt c batch).getLast? = some v → valuesAt c after = [v]
  /-- Entries of other columns stay, as often as they are listed. -/
  others : after.filter (·.1 ∉ batch.map (·.1)) = before.filter (·.1 ∉ batch.map (·.1))
  /-- Columns keep their first places, and new ones follow as the batch mentions them first. -/
  order : after.map (·.1) = columnsAfter (batch.map (·.1)) (before.map (·.1))

section Entries

variable {c : Nat} {v : Float} {entries batch : List (Nat × Float)}

theorem filter_setEntry {p : Nat × Float → Bool} (other : ∀ x, p (c, x) = false) (v : Float)
    (entries : List (Nat × Float)) : (setEntry c v entries).filter p = entries.filter p := by
  induction entries with
  | nil => exact List.filter_cons_of_neg (by simp [other])
  | cons head rest ih =>
    obtain ⟨d, x⟩ := head
    rw [setEntry]
    split
    · rename_i same
      subst same
      rw [List.filter_cons_of_neg (by simp [other]), List.filter_cons_of_neg (by simp [other]),
        List.filter_filter]
      refine List.filter_congr fun t _ => ?_
      by_cases here : t.1 = d
      · have gone : p (t.1, t.2) = false := by rw [here, other]
        simp [gone]
      · simp [here]
    · rw [List.filter_cons, List.filter_cons, ih]

theorem columns_setEntry (c : Nat) (v : Float) (entries : List (Nat × Float)) :
    (setEntry c v entries).map (·.1) = firstsOf [c] (entries.map (·.1)) ++
      if c ∈ entries.map (·.1) then [] else [c] := by
  induction entries with
  | nil => rfl
  | cons head rest ih =>
    obtain ⟨d, x⟩ := head
    rw [setEntry, List.map_cons, firstsOf]
    by_cases same : d = c
    · subst same
      rw [if_pos rfl, if_pos (List.mem_singleton_self d), if_pos List.mem_cons_self,
        List.append_nil, List.map_cons, filter_firstsOf, firstsOf_of_apart (by simp), List.filter_map]
      rfl
    · have other : c ≠ d := fun h => same h.symm
      rw [if_neg same, if_neg (by simpa using same), List.map_cons, ih]
      simp only [List.mem_cons, other, false_or, List.cons_append]

theorem setEntries_concat (entries batch : List (Nat × Float)) (t : Nat × Float) :
    setEntries entries (batch ++ [t]) = setEntry t.1 t.2 (setEntries entries batch) :=
  List.foldl_concat ..

theorem valuesAt_setEntries_eq (entries batch : List (Nat × Float)) (c : Nat) :
    valuesAt c (setEntries entries batch) =
      ((valuesAt c batch).getLast?.map ([·])).getD (valuesAt c entries) := by
  induction batch using List.reverseRecOn with
  | nil => rfl
  | append_singleton batch t ih =>
    rw [setEntries_concat, valuesAt_setEntry, ih, valuesAt_append, valuesAt_cons, valuesAt_nil]
    by_cases same : c = t.1
    · rw [if_pos same, if_pos same.symm, List.getLast?_concat]
      rfl
    · rw [if_neg same, if_neg fun h => same h.symm, List.append_nil]

theorem count_columns (c : Nat) (entries : List (Nat × Float)) :
    (entries.map (·.1)).count c = (valuesAt c entries).length := by
  unfold valuesAt
  rw [List.length_map, List.count, List.countP_map, ← List.countP_eq_length_filter]
  refine List.countP_congr fun t _ => ?_
  simp

theorem mem_columns_iff : c ∈ entries.map (·.1) ↔ valuesAt c entries ≠ [] := by
  rw [← List.count_pos_iff, count_columns, List.length_pos_iff]

theorem columns_setEntries (entries batch : List (Nat × Float)) :
    (setEntries entries batch).map (·.1) = columnsAfter (batch.map (·.1)) (entries.map (·.1)) := by
  induction batch using List.reverseRecOn with
  | nil => simp [setEntries, columnsAfter, firstsOf_of_apart]
  | append_singleton batch t ih =>
    rw [setEntries_concat, columns_setEntry, List.map_append, List.map_singleton]
    by_cases named : t.1 ∈ batch.map (·.1)
    · -- the column is listed once already, so it keeps its place
      obtain ⟨w, last⟩ := Option.ne_none_iff_exists'.1
        (mt List.getLast?_eq_none_iff.1 (mem_columns_iff.1 named))
      have once : ((setEntries entries batch).map (·.1)).count t.1 = 1 := by
        rw [count_columns, valuesAt_setEntries_eq, last]
        rfl
      have listed : t.1 ∈ (setEntries entries batch).map (·.1) :=
        List.count_pos_iff.1 (once.symm ▸ Nat.one_pos)
      rw [firstsOf_of_count_le once.le, if_pos listed, List.append_nil, ih,
        columnsAfter_concat_of_mem named]
    · have listed : t.1 ∈ (setEntries entries batch).map (·.1) ↔ t.1 ∈ entries.map (·.1) := by
        rw [ih, mem_columnsAfter]
        exact or_iff_left named
      simp only [listed]
      rw [ih, columnsAfter_concat_of_not_mem named]

theorem filter_setEntries {p : Nat × Float → Bool}
    (other : ∀ t ∈ batch, ∀ x, p (t.1, x) = false) (entries : List (Nat × Float)) :
    (setEntries entries batch).filter p = entries.filter p := by
  induction batch using List.reverseRecOn with
  | nil => rfl
  | append_singleton batch t ih =>
    obtain ⟨before, last⟩ := List.forall_mem_append.1 other
    rw [setEntries_concat, filter_setEntry (last t (List.mem_singleton_self t)), ih before]

theorem rewrites_setEntries (entries batch : List (Nat × Float)) :
    Rewrites batch entries (setEntries entries batch) where
  last c v last := by
    rw [valuesAt_setEntries_eq, last]
    rfl
  others := filter_setEntries (fun t listed x => decide_eq_false
    (not_not.2 (List.mem_map_of_mem (f := (·.1)) listed))) entries
  order := columns_setEntries entries batch

end Entries

/-! ### Batches -/

namespace Body

theorem changeCoefficients_eq_rows (b : Body) (batch : List (Nat × Nat × Float)) :
    b.changeCoefficients batch = { b with rows := (b.changeCoefficients batch).rows } := by
  have columns := columns_changeCoefficients b batch
  obtain ⟨sense, constant⟩ := sense_changeCoefficients b batch
  rw [← columns, ← sense, ← constant]

end Body

namespace Matrix
open Operation

variable {m n : Matrix} {rows columns : List Nat} {values : List Float}

theorem zip_of_check (columnsFit : LengthMismatch.check "columns" rows.length columns.length = .ok ⟨⟩)
    (valuesFit : LengthMismatch.check "values" rows.length values.length = .ok ⟨⟩) :
    (rows.zip (columns.zip values)).map (·.1) = rows ∧
      (rows.zip (columns.zip values)).map (·.2.1) = columns ∧
      (rows.zip (columns.zip values)).map (·.2.2) = values := by
  have columnsLength := length_eq_of_check columnsFit
  have valuesLength := length_eq_of_check valuesFit
  have pairs : (columns.zip values).length = rows.length := by
    rw [List.length_zip]
    omega
  have rest : (rows.zip (columns.zip values)).map (·.2) = columns.zip values :=
    List.map_snd_zip pairs.le
  refine ⟨List.map_fst_zip pairs.ge, ?_, ?_⟩
  · refine (List.map_map (f := Prod.snd) (g := Prod.fst)).symm.trans ?_
    rw [rest]
    exact List.map_fst_zip (by omega)
  · refine (List.map_map (f := Prod.snd) (g := Prod.snd)).symm.trans ?_
    rw [rest]
    exact List.map_snd_zip (by omega)

/-- A batch that is accepted changes entries of rows that exist, and nothing else. -/
theorem last_value_wins (reachable : m.Reachable)
    (accepted : changeCoefficients rows columns values m = .ok ⟨⟩ n) :
    let batch := rows.zip (columns.zip values)
    (batch.map (·.1) = rows ∧ batch.map (·.2.1) = columns ∧ batch.map (·.2.2) = values) ∧
      n.flush = { m.flush with
        body := { m.flush.body with rows := n.flush.body.rows }
        status := .loaded
        values := none } ∧
      n.flush.body.rows.length = m.flush.body.rows.length ∧
      (∀ t ∈ batch, t.1 < m.flush.body.rows.length ∧ t.2.1 < m.flush.body.columns.length) ∧
      ∀ i row, m.flush.body.rows[i]? = some row →
        ∃ entries, n.flush.body.rows[i]? = some { row with entries } ∧
          Rewrites (Body.batchAt i batch) row.entries entries := by
  intro batch
  obtain ⟨⟨columnsFit, valuesFit, within⟩, -, rfl⟩ :=
    (queues_changeCoefficients rows columns values).ok_iff.1 accepted
  have sound := reachable.sound
  have columnCount : m.flush.body.columns.length = m.columnCount := sound.columnCount
  have rowCount : m.flush.body.rows.length = m.rowCount := sound.rowCount
  refine ⟨zip_of_check columnsFit valuesFit, ?_, ?_, ?_, ?_⟩
  · rw [flush_grown]
    dsimp only
    rw [name_flush, queue_flush, columnCount_flush, rowCount_flush]
    exact congrArg (Matrix.mk m.name · [] m.columnCount m.rowCount .loaded none)
      (Body.changeCoefficients_eq_rows m.flush.body batch)
  · rw [flush_grown]
    exact Body.length_rows_changeCoefficients _ batch
  · rw [columnCount, rowCount]
    exact within
  · intro i row present
    refine ⟨_, ?_, rewrites_setEntries row.entries (Body.batchAt i batch)⟩
    rw [flush_grown]
    show (m.flush.body.changeCoefficients batch).rows[i]? = _
    rw [Body.getElem?_changeCoefficients, present]
    rfl

/-- A row that lists two columns twice, and a row with another column. -/
def repeatedColumns : Matrix :=
  let columns := final (addColumns [0, 0, 0] [4, 4, 4] none none none (empty "m"))
  let first := final (addRow [(0, 1), (1, 2), (0, 3), (1, 4)] .le 4 none columns)
  final (addRow [(2, 1)] .ge 1 none first)

theorem last_value_wins_repeatedColumns :
    repeatedColumns.Reachable ∧ ∃ n,
      changeCoefficients [0, 1, 0, 1, 1] [0, 1, 0, 0, 1] [5, 6, 7, 8, 9] repeatedColumns = .ok ⟨⟩ n ∧
      n.flush.body.rows.map (·.entries) = [[(0, 7), (1, 2), (1, 4)], [(2, 1), (1, 9), (0, 8)]] ∧
      ∃ entries, n.flush.body.rows[1]? = some ⟨entries, .ge, 1, none⟩ ∧
        Rewrites [(1, 6), (0, 8), (1, 9)] [(2, 1)] entries := by
  have reachable : repeatedColumns.Reachable := by
    unfold repeatedColumns
    exact (((Reachable.empty "m").step (.addColumns ..)).step (.addRow ..)).step (.addRow ..)
  let n := final
    (changeCoefficients [0, 1, 0, 1, 1] [0, 1, 0, 0, 1] [5, 6, 7, 8, 9] repeatedColumns)
  have accepted : changeCoefficients [0, 1, 0, 1, 1] [0, 1, 0, 0, 1] [5, 6, 7, 8, 9]
      repeatedColumns = .ok ⟨⟩ n := rfl
  obtain ⟨-, -, -, -, rewritten⟩ := last_value_wins reachable accepted
  refine ⟨reachable, n, accepted, by decide +kernel, ?_⟩
  exact rewritten 1 ⟨[(2, 1)], .ge, 1, none⟩ (by decide +kernel)

end Matrix

end LinProg
