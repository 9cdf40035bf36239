import Mathlib
import LinProg.Matrix.File
import LinProg.Proofs.Lp.ReadBack
import LinProg.Proofs.Matrix.View

/-!
# Imported bodies

What a model file says of a body is again a body, `imported`: the one that reading the file gives
(`bodyOf_document`).  Its net coefficients are those of the first body, and it is written as the same
text.
-/

namespace LinProg

/-! ### Shown entries -/

/-- The entries that a model file shows: those other than zero, or else a zero entry of the first
column. -/
def shownEntries (columns : Nat) (entries : List (Nat × Float)) : List (Nat × Float) :=
  match entries.filter (fun t => t.2 != 0), columns with
  | [], _ + 1 => [(0, 0)]
  | shown, _ => shown

theorem shownEntries_within {columns : Nat} {entries : List (Nat × Float)}
    (within : ∀ t ∈ entries, t.1 < columns) : ∀ t ∈ shownEntries columns entries, t.1 < columns := by
  intro t member
  unfold shownEntries at member
  split at member
  · rw [List.mem_singleton.1 member]
    exact Nat.succ_pos _
  · exact within t (List.mem_of_mem_filter member)

/-- What is shown is shown again. -/
theorem filter_shownEntries (columns : Nat) (entries : List (Nat × Float)) :
    (shownEntries columns entries).filter (fun t => t.2 != 0) =
      entries.filter (fun t => t.2 != 0) := by
  unfold shownEntries
  split
  · rename_i none
    rw [none]
    rfl
  · rw [List.filter_filter]
    simp only [Bool.and_self]

/-! ### Terms by position -/

/-- Terms under names, with the positions of these names instead. -/
def Lp.Document.positions (d : Lp.Document) (terms : List (String × Float)) : List (Nat × Float) :=
  terms.filterMap fun (name, c) => (d.declared.findIdx? (·.name = name)).map fun i => (i, c)

theorem valuesAt_filter_ne_zero (j : Nat) (entries : List (Nat × Float)) :
    valuesAt j (entries.filter fun t => t.2 != 0) = (valuesAt j entries).filter (· != 0) := by
  unfold valuesAt
  rw [List.filter_filter, List.filter_map, List.filter_filter]
  congr 1
  exact List.filter_congr fun t _ => Bool.and_comm ..

/-- The net coefficients of shown entries, up to the sign of a zero. -/
theorem agrees_shownEntries (columns : Nat) (entries : List (Nat × Float)) (j : Nat) :
    Number.Agrees ((netCoefficients (shownEntries columns entries)).getD j)
      ((netCoefficients entries).getD j) := by
  unfold netCoefficients
  rw [Sparse.getD_accumulateList, Sparse.getD_accumulateList]
  have same := (Number.Agrees.foldl_filter (valuesAt j (shownEntries columns entries)) 0).symm
  rw [← valuesAt_filter_ne_zero, filter_shownEntries, valuesAt_filter_ne_zero] at same
  exact same.trans (.foldl_filter _ 0)

namespace Problem

variable {p : Problem}

theorem shownTerms_named (p : Problem) (terms : List (Nat × Float)) :
    Lp.shownTerms (p.named terms) = p.named (terms.filter fun t => t.2 != 0) := by
  unfold Lp.shownTerms named
  rw [List.filter_map]
  rfl

theorem writtenTerms_eq (p : Problem) (terms : List (Nat × Float)) :
    p.writtenTerms terms = p.named (shownEntries p.columns.length terms) := by
  unfold writtenTerms shownEntries
  rw [shownTerms_named]
  cases terms.filter (fun t => t.2 != 0) with
  | cons t rest => rfl
  | nil =>
    cases columns : p.columns with
    | nil => rfl
    | cons c rest =>
      show [(c.name, (0 : Float))] = [(p.columnName 0, 0)]
      unfold columnName
      rw [columns]
      rfl

theorem findIdx?_declared (distinct : (p.columns.map (·.name)).Nodup) {i : Nat}
    (inside : i < p.columns.length) :
    p.document.declared.findIdx? (·.name = p.columnName i) = some i := by
  have name (j : Nat) (here : j < p.columns.length) : p.columnName j = p.columns[j].name := by
    unfold columnName
    rw [List.getElem?_eq_getElem here]
  show (p.columns.map ProblemColumn.declared).findIdx? _ = _
  rw [List.findIdx?_map, List.findIdx?_eq_some_iff_getElem]
  refine ⟨inside, ?_, fun j before => ?_⟩
  · rw [name i inside]
    exact decide_eq_true rfl
  · have here := before.trans inside
    have other : p.columns[j].name ≠ p.columns[i].name := by
      have pairs := List.pairwise_map.1 distinct
      exact List.pairwise_iff_getElem.1 pairs j i here inside before
    rw [name i inside]
    exact fun same => other (of_decide_eq_true same)

theorem positions_named (distinct : (p.columns.map (·.name)).Nodup) {terms : List (Nat × Float)}
    (within : ∀ t ∈ terms, t.1 < p.columns.length) :
    p.document.positions (p.named terms) = terms := by
  unfold Lp.Document.positions named
  rw [List.filterMap_map]
  refine (List.filterMap_congr fun t member => ?_).trans List.filterMap_some
  show (p.document.declared.findIdx? (·.name = p.columnName t.1)).map (fun i => (i, t.2)) = some t
  rw [findIdx?_declared distinct (within t member)]
  rfl

end Problem

/-! ### Objectives -/

theorem valuesAt_mapIdx (j : Nat) (xs : List Float) :
    valuesAt j (xs.mapIdx fun i x => (i, x)) = xs[j]?.toList := by
  induction xs using List.reverseRecOn with
  | nil => rfl
  | append_singleton xs x ih =>
    rw [List.mapIdx_concat, valuesAt_append, ih, valuesAt_cons]
    rcases Nat.lt_trichotomy j xs.length with before | rfl | after
    · rw [List.getElem?_append_left before, if_neg (Nat.ne_of_gt before), valuesAt_nil,
        List.append_nil]
    · rw [List.getElem?_concat_length, if_pos rfl, List.getElem?_eq_none (Nat.le_refl _)]
      rfl
    · rw [if_neg (Nat.ne_of_lt after), List.getElem?_eq_none (Nat.le_of_lt after),
        List.getElem?_eq_none (by simpa using after)]
      rfl

namespace Body

variable {b : Body} {columns rows : Nat}

theorem objectiveTerms_eq (b : Body) :
    b.objectiveTerms =
      ((b.columns.map (·.objective)).mapIdx fun i x => (i, x)).filter fun t => t.2 != 0 := by
  refine congrArg (List.filter _) (List.mapIdx_eq_iff.2 fun i => ?_)
  rw [List.getElem?_mapIdx, List.getElem?_map, Option.map_map]
  rfl

theorem valuesAt_objectiveTerms (b : Body) (j : Nat) :
    valuesAt j b.objectiveTerms = (b.columns[j]?.map (·.objective)).toList.filter (· != 0) := by
  rw [objectiveTerms_eq, valuesAt_filter_ne_zero, valuesAt_mapIdx, List.getElem?_map]

theorem getElem?_addToObjective (b : Body) (terms : List (Nat × Float)) (j : Nat) :
    (b.addToObjective terms).columns[j]? = b.columns[j]?.map fun c =>
      { c with objective := (valuesAt j terms).foldl (· + ·) c.objective } := by
  unfold addToObjective
  induction terms generalizing b with
  | nil => exact (Option.map_id' ..).symm
  | cons t rest ih =>
    rw [List.foldl_cons, ih, valuesAt_cons]
    show ((b.columns.modify t.1 _)[j]?).map _ = _
    rw [List.getElem?_modify]
    split
    · cases b.columns[j]? <;> rfl
    · cases b.columns[j]? <;> rfl

/-! ### The imported body -/

/-- An objective coefficient that is read back: a negative zero comes back as zero. -/
def plainZero (x : Float) : Float := if x != 0 then x else 0

/-- What a model file says of a body. -/
def imported (b : Body) : Body where
  columns := List.zipWith
    (fun c name => ⟨c.lower, c.upper, plainZero c.objective, c.domain, some name⟩)
    b.columns b.viewNames.columns
  rows := List.zipWith
    (fun r name => ⟨shownEntries b.columns.length r.entries, r.relation, r.rhs, some name⟩)
    b.rows b.viewNames.rows
  sense := b.sense
  constant := 0

theorem length_columns_imported (b : Body) : b.imported.columns.length = b.columns.length := by
  show (List.zipWith _ b.columns b.viewNames.columns).length = _
  rw [List.length_zipWith, length_viewColumns, Nat.min_self]

theorem length_rows_imported (b : Body) : b.imported.rows.length = b.rows.length := by
  show (List.zipWith _ b.rows b.viewNames.rows).length = _
  rw [List.length_zipWith, length_viewRows, Nat.min_self]

theorem within_objectiveTerms (b : Body) : ∀ t ∈ b.objectiveTerms, t.1 < b.columns.length := by
  intro t member
  obtain ⟨c, present, -⟩ := mem_objectiveTerms member
  exact (List.getElem?_eq_some_iff.1 present).1

theorem positions_writtenTerms (b : Body) (name : String) {terms : List (Nat × Float)}
    (within : ∀ t ∈ terms, t.1 < b.columns.length) :
    (b.problem name).document.positions ((b.problem name).writtenTerms terms) =
      shownEntries b.columns.length terms := by
  have count := b.length_columns_problem name
  rw [Problem.writtenTerms_eq, count]
  refine Problem.positions_named ?_ ?_
  · rw [map_name_columns]
    exact b.unique_viewNames.distinctColumns
  · rw [count]
    exact shownEntries_within within

/-- Adding up the shown objective terms of a column gives its coefficient back. -/
theorem foldl_shown_objective {j : Nat} {c : MatrixColumn} (present : b.columns[j]? = some c) :
    (valuesAt j (shownEntries b.columns.length b.objectiveTerms)).foldl (· + ·) 0 =
      plainZero c.objective := by
  have own : valuesAt j b.objectiveTerms = if c.objective != 0 then [c.objective] else [] := by
    rw [valuesAt_objectiveTerms, present]
    exact List.filter_cons
  have shown : b.objectiveTerms.filter (fun t => t.2 != 0) = b.objectiveTerms := by
    unfold objectiveTerms
    rw [List.filter_filter]
    simp only [Bool.and_self]
  unfold shownEntries plainZero
  rw [shown]
  cases zero : c.objective != 0 with
  | true =>
    rw [zero, if_pos rfl] at own
    rw [if_pos rfl]
    split
    · rename_i empty _
      rw [empty] at own
      cases own
    · rw [own]
      refine Number.zero_add_of_ne_zero rfl ?_
      simpa [bne] using zero
  | false =>
    rw [zero, if_neg Bool.false_ne_true] at own
    rw [if_neg Bool.false_ne_true]
    split
    · rw [valuesAt_cons]
      split <;> rfl
    · rw [own]
      rfl

/-- A lower bound that the text declares as it is. -/
theorem declared_lower {c : MatrixColumn} (name : String)
    (plain : c.domain = .binary → c.lower ≠ Number.negativeZero) :
    (ProblemColumn.declared ⟨name, c.domain, c.lower, c.upper⟩).lower = c.lower := by
  unfold ProblemColumn.declared
  dsimp only
  split
  · rename_i both
    rcases Number.eq_of_beq_zero both.2 with zero | zero
    · exact zero.symm
    · exact absurd zero (plain both.1)
  · rfl

/-! ### Reading a document -/

theorem getElem?_columns_bodyOf (d : Lp.Document) (j : Nat) :
    (Matrix.bodyOf d).columns[j]? = d.declared[j]?.map fun v =>
      ⟨v.lower, v.upper, (valuesAt j (d.positions d.objective)).foldl (· + ·) 0, v.domain,
        some v.name⟩ := by
  refine (getElem?_addToObjective _ (d.positions d.objective) j).trans ?_
  rw [List.getElem?_map, Option.map_map]
  rfl

theorem rows_bodyOf (d : Lp.Document) :
    (Matrix.bodyOf d).rows = d.rows.map fun r =>
      ⟨d.positions r.terms, r.relation, r.rhs, some r.name⟩ :=
  rows_addToObjective _ (d.positions d.objective)

theorem sense_addToObjective (b : Body) (terms : List (Nat × Float)) :
    (b.addToObjective terms).sense = b.sense ∧
      (b.addToObjective terms).constant = b.constant := by
  unfold addToObjective
  induction terms generalizing b with
  | nil => exact ⟨rfl, rfl⟩
  | cons t rest ih => exact ih _

theorem getElem?_columns_imported (portable : b.Portable) (name : String) (j : Nat) :
    (Matrix.bodyOf (b.problem name).document).columns[j]? = b.imported.columns[j]? := by
  rw [getElem?_columns_bodyOf]
  show ((List.zipWith _ b.columns b.viewNames.columns).map ProblemColumn.declared)[j]?.map _ =
    (List.zipWith _ b.columns b.viewNames.columns)[j]?
  have objective := b.positions_writtenTerms name b.within_objectiveTerms
  rw [List.getElem?_map, List.getElem?_zipWith', List.getElem?_zipWith']
  cases present : b.columns[j]? with
  | none => rfl
  | some c =>
    cases b.viewNames.columns[j]? with
    | none => rfl
    | some given =>
      have plain := fun binary => (portable.unit c (List.mem_of_getElem? present) binary).2.2
      show some (MatrixColumn.mk (ProblemColumn.declared ⟨given, c.domain, c.lower, c.upper⟩).lower
        c.upper ((valuesAt j ((b.problem name).document.positions
          ((b.problem name).writtenTerms b.objectiveTerms))).foldl (· + ·) 0) c.domain
            (some given)) = some ⟨c.lower, c.upper, plainZero c.objective, c.domain, some given⟩
      rw [objective, foldl_shown_objective present, declared_lower given plain]

theorem getElem?_rows_imported (sound : b.Sound columns rows) (name : String) (i : Nat) :
    (Matrix.bodyOf (b.problem name).document).rows[i]? = b.imported.rows[i]? := by
  rw [rows_bodyOf]
  show (((List.zipWith _ b.rows b.viewNames.rows).map fun row : ProblemRow =>
      Lp.Row.mk row.name ((b.problem name).writtenTerms row.terms) row.relation row.rhs).map _)[i]? =
    (List.zipWith _ b.rows b.viewNames.rows)[i]?
  rw [List.getElem?_map, List.getElem?_map, List.getElem?_zipWith', List.getElem?_zipWith']
  cases present : b.rows[i]? with
  | none => rfl
  | some r =>
    cases b.viewNames.rows[i]? with
    | none => rfl
    | some given =>
      have within : ∀ t ∈ r.entries, t.1 < b.columns.length := by
        rw [sound.columnCount]
        exact sound.within_of_getElem? present
      exact congrArg (fun entries => some (MatrixRow.mk entries r.relation r.rhs (some given)))
        (b.positions_writtenTerms name within)

theorem bodyOf_document (sound : b.Sound columns rows) (portable : b.Portable) (name : String) :
    Matrix.bodyOf (b.problem name).document = b.imported := by
  have columns' := List.ext_getElem? (getElem?_columns_imported portable name)
  have rows' := List.ext_getElem? (getElem?_rows_imported sound name)
  have rest : (Matrix.bodyOf (b.problem name).document).sense = b.sense ∧
      (Matrix.bodyOf (b.problem name).document).constant = 0 := sense_addToObjective _ _
  cases document : Matrix.bodyOf (b.problem name).document
  rw [document] at columns' rows' rest
  cases columns'
  cases rows'
  cases rest.1
  cases rest.2
  rfl

end Body

/-! ### The text of an imported body -/

/-- The row without its terms that are zero, which a text does not show. -/
def ProblemRow.shown (row : ProblemRow) : ProblemRow :=
  { row with terms := row.terms.filter fun t => t.2 != 0 }

namespace Problem

theorem termsText_filter (p : Problem) (terms : List (Nat × Float)) :
    p.termsText (terms.filter fun t => t.2 != 0) = p.termsText terms := by
  refine String.toList_inj.1 ?_
  rw [toList_termsText, toList_termsText, termsWords, termsWords, shownTerms_named,
    shownTerms_named, List.filter_filter]
  simp only [Bool.and_self]

theorem rowText_shown (p : Problem) (row : ProblemRow) : p.rowText row.shown = p.rowText row := by
  unfold rowText
  rw [ProblemRow.shown, termsText_filter]

/-- A text does not tell which terms are zero. -/
theorem text_shown (p : Problem) : { p with rows := p.rows.map ProblemRow.shown }.text = p.text := by
  have rows : { p with rows := p.rows.map ProblemRow.shown }.rowsText = p.rowsText := by
    unfold rowsText
    rw [List.isEmpty_map, List.map_map]
    have each : { p with rows := p.rows.map ProblemRow.shown }.rowText ∘ ProblemRow.shown =
        p.rowText := funext p.rowText_shown
    rw [each]
  unfold text
  rw [rows]
  rfl

end Problem

namespace Body

variable {b : Body}

theorem wantedColumnNames_imported (b : Body) :
    b.imported.wantedColumnNames = b.viewNames.columns := by
  refine List.mapIdx_eq_iff.2 fun i => ?_
  show _ = (List.zipWith _ b.columns b.viewNames.columns)[i]?.map _
  rw [List.getElem?_zipWith']
  cases given : b.viewNames.columns[i]? with
  | none => cases b.columns[i]? <;> rfl
  | some name =>
    have inside := (List.getElem?_eq_some_iff.1 given).1
    rw [length_viewColumns] at inside
    rw [List.getElem?_eq_getElem inside]
    rfl

theorem wantedRowNames_imported (b : Body) : b.imported.wantedRowNames = b.viewNames.rows := by
  refine List.mapIdx_eq_iff.2 fun i => ?_
  show _ = (List.zipWith _ b.rows b.viewNames.rows)[i]?.map _
  rw [List.getElem?_zipWith']
  cases given : b.viewNames.rows[i]? with
  | none => cases b.rows[i]? <;> rfl
  | some name =>
    have inside := (List.getElem?_eq_some_iff.1 given).1
    rw [length_viewRows] at inside
    rw [List.getElem?_eq_getElem inside]
    rfl

theorem viewNames_imported (b : Body) : b.imported.viewNames = b.viewNames :=
  viewNames_eq b.wantedColumnNames_imported b.wantedRowNames_imported

theorem filter_plainZero (xs : List Float) :
    ((xs.map plainZero).mapIdx fun i x => (i, x)).filter (fun t => t.2 != 0) =
      (xs.mapIdx fun i x => (i, x)).filter fun t => t.2 != 0 := by
  induction xs using List.reverseRecOn with
  | nil => rfl
  | append_singleton xs x ih =>
    rw [List.map_append, List.map_singleton, List.mapIdx_concat, List.mapIdx_concat,
      List.filter_append, List.filter_append, ih, List.length_map]
    congr 1
    unfold plainZero
    cases zero : x != 0 with
    | true => rfl
    | false =>
      have plain : ((0 : Float) != 0) = false := rfl
      simp [zero, plain]

theorem objectives_imported (b : Body) :
    b.imported.columns.map (·.objective) = (b.columns.map (·.objective)).map plainZero := by
  refine List.ext_getElem? fun i => ?_
  show ((List.zipWith _ b.columns b.viewNames.columns).map _)[i]? = _
  rw [List.getElem?_map, List.getElem?_zipWith', List.getElem?_map, List.getElem?_map]
  cases present : b.columns[i]? with
  | none => rfl
  | some c =>
    have inside := (List.getElem?_eq_some_iff.1 present).1
    rw [← length_viewColumns] at inside
    rw [List.getElem?_eq_getElem inside]
    rfl

theorem objectiveTerms_imported (b : Body) : b.imported.objectiveTerms = b.objectiveTerms := by
  rw [objectiveTerms_eq, objectiveTerms_eq, objectives_imported, filter_plainZero]

theorem columns_problem_imported (b : Body) (name name' : String) :
    (b.imported.problem name').columns = (b.problem name).columns := by
  refine List.ext_getElem? fun i => ?_
  show (List.zipWith _ (List.zipWith _ b.columns b.viewNames.columns) b.imported.viewNames.columns)[i]? =
    (List.zipWith _ b.columns b.viewNames.columns)[i]?
  rw [viewNames_imported, List.getElem?_zipWith', List.getElem?_zipWith', List.getElem?_zipWith']
  cases b.columns[i]? <;> cases b.viewNames.columns[i]? <;> rfl

theorem rows_problem_imported (b : Body) (name name' : String) :
    (b.imported.problem name').rows.map ProblemRow.shown =
      (b.problem name).rows.map ProblemRow.shown := by
  refine List.ext_getElem? fun i => ?_
  rw [List.getElem?_map, List.getElem?_map]
  show (List.zipWith _ (List.zipWith _ b.rows b.viewNames.rows) b.imported.viewNames.rows)[i]?.map _ =
    (List.zipWith _ b.rows b.viewNames.rows)[i]?.map _
  rw [viewNames_imported, List.getElem?_zipWith', List.getElem?_zipWith', List.getElem?_zipWith']
  cases b.rows[i]? with
  | none => rfl
  | some r =>
    cases b.viewNames.rows[i]? with
    | none => rfl
    | some given =>
      exact congrArg (fun terms => some (ProblemRow.mk given terms r.relation r.rhs))
        (filter_shownEntries b.columns.length r.entries)

theorem text_imported (b : Body) (name : String) :
    (b.imported.problem (problemName name)).text = (b.problem name).text := by
  rw [← Problem.text_shown, ← (b.problem name).text_shown, rows_problem_imported b name,
    columns_problem_imported b name]
  show Problem.text ⟨problemName (problemName name), b.sense, _, b.imported.objectiveTerms, _⟩ = _
  rw [problemName_problemName, objectiveTerms_imported]
  rfl

end Body

end LinProg
