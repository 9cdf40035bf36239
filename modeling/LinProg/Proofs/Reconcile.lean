import Mathlib
import LinProg.Matrix.Body
import LinProg.Proofs.Sparse
import LinProg.Reconcile

/-!
# Rows after reconciling

A row that takes over a delta has the net coefficients of the desired entries, up to the sign of a
zero, whether the delta is carried out or skipped because it changes nothing: `agrees_installed`.
-/

namespace LinProg
open Number (Agrees)

/-! ### Setting entries -/

theorem valuesAt_filter_ne {c j : Nat} (entries : List (Nat × Float)) :
    valuesAt j (entries.filter (·.1 ≠ c)) = if j = c then [] else valuesAt j entries := by
  unfold valuesAt
  rw [List.filter_filter]
  split
  · rename_i same
    rw [List.map_eq_nil_iff, List.filter_eq_nil_iff]
    intro t _
    simp [same]
  · rename_i other
    congr 1
    refine List.filter_congr fun t _ => ?_
    by_cases here : t.1 = j <;> simp [here, other]

/-- The column that was set has the one value that was given; other columns keep theirs. -/
theorem valuesAt_setEntry (c j : Nat) (v : Float) (entries : List (Nat × Float)) :
    valuesAt j (setEntry c v entries) = if j = c then [v] else valuesAt j entries := by
  induction entries with
  | nil =>
    rw [setEntry, valuesAt_cons, valuesAt_nil]
    by_cases same : j = c
    · rw [if_pos same, if_pos same.symm]
    · rw [if_neg same, if_neg fun h => same h.symm]
  | cons head rest ih =>
    obtain ⟨k, x⟩ := head
    rw [setEntry]
    by_cases here : k = c
    · rw [if_pos here, valuesAt_cons, valuesAt_filter_ne, valuesAt_cons]
      subst here
      by_cases same : j = k
      · rw [if_pos same.symm, if_pos same, if_pos same]
      · have other : ¬k = j := fun h => same h.symm
        rw [if_neg other, if_neg same, if_neg same, if_neg other]
    · rw [if_neg here, valuesAt_cons, ih, valuesAt_cons]
      by_cases same : j = c
      · subst same
        rw [if_neg here, if_pos rfl, if_pos rfl]
      · rw [if_neg same, if_neg same]

def setEntries (entries target : List (Nat × Float)) : List (Nat × Float) :=
  target.foldl (fun entries t => setEntry t.1 t.2 entries) entries

theorem mem_setEntry {c : Nat} {v : Float} {entries : List (Nat × Float)} {t : Nat × Float}
    (member : t ∈ setEntry c v entries) : t ∈ entries ∨ t = (c, v) := by
  induction entries with
  | nil => exact .inr (List.mem_singleton.1 member)
  | cons head rest ih =>
    rw [setEntry] at member
    split at member
    · rename_i here
      rcases List.mem_cons.1 member with same | listed
      · exact .inr (same.trans (congrArg (·, v) here))
      · exact .inl (List.mem_cons_of_mem _ (List.mem_of_mem_filter listed))
    · rcases List.mem_cons.1 member with same | listed
      · exact .inl (same ▸ List.mem_cons_self)
      · exact (ih listed).imp_left (List.mem_cons_of_mem _)

theorem mem_setEntries {entries target : List (Nat × Float)} {t : Nat × Float}
    (member : t ∈ setEntries entries target) : t ∈ entries ∨ t ∈ target := by
  induction target generalizing entries with
  | nil => exact .inl member
  | cons head rest ih =>
    have further : t ∈ setEntries (setEntry head.1 head.2 entries) rest := member
    rcases ih further with old | new
    · rcases mem_setEntry old with old | rfl
      · exact .inl old
      · exact .inr List.mem_cons_self
    · exact .inr (List.mem_cons_of_mem _ new)

theorem valuesAt_setEntries {target : List (Nat × Float)}
    (distinct : target.Pairwise fun a b => a.1 ≠ b.1) (entries : List (Nat × Float)) (j : Nat) :
    valuesAt j (setEntries entries target) =
      if valuesAt j target = [] then valuesAt j entries else valuesAt j target := by
  induction target generalizing entries with
  | nil => rfl
  | cons head rest ih =>
    obtain ⟨first, others⟩ := List.pairwise_cons.1 distinct
    show valuesAt j (setEntries (setEntry head.1 head.2 entries) rest) = _
    rw [ih others, valuesAt_setEntry, valuesAt_cons]
    by_cases same : j = head.1
    · have absent : valuesAt j rest = [] :=
        valuesAt_eq_nil fun t member h => first t member (same.symm.trans h.symm)
      rw [if_pos absent, if_pos same, if_pos same.symm, absent, if_neg (List.cons_ne_nil _ _)]
    · have other : ¬head.1 = j := fun h => same h.symm
      rw [if_neg same, if_neg other]

/-! ### Net coefficients -/

theorem get?_netCoefficients_isSome {entries : List (Nat × Float)} {j : Nat} :
    ((netCoefficients entries).get? j).isSome ↔ ∃ t ∈ entries, t.1 = j := by
  unfold netCoefficients Sparse.accumulateList
  rw [Sparse.get?_foldl_accumulate_isSome]
  exact or_iff_right nofun

theorem getD_netCoefficients_of_absent {entries : List (Nat × Float)} {j : Nat}
    (absent : ∀ t ∈ entries, t.1 ≠ j) : (netCoefficients entries).getD j = 0 := by
  unfold netCoefficients
  rw [Sparse.getD_accumulateList, valuesAt_eq_nil absent]
  rfl

/-! ### Deltas -/

namespace RowDelta

variable {installed desired : List (Nat × Float)}

theorem getD_target (j : Nat) :
    (between installed desired).target.getD j = (netCoefficients desired).getD j := by
  have start : ((netCoefficients installed).map fun _ => 0).getD j = 0 := by
    unfold Sparse.getD
    rw [Sparse.get?_map]
    cases (netCoefficients installed).get? j <;> rfl
  refine (Sparse.getD_foldl_accumulate _ _ _).trans ?_
  rw [start]
  exact (Sparse.getD_accumulateList desired j).symm

theorem get?_target_isSome (j : Nat) :
    ((between installed desired).target.get? j).isSome ↔
      ∃ t ∈ installed ++ desired, t.1 = j := by
  refine (Sparse.get?_foldl_accumulate_isSome _ _ _).trans ?_
  rw [Sparse.get?_map, Option.isSome_map, get?_netCoefficients_isSome]
  simp only [List.mem_append, or_and_right, exists_or]

/-- A delta covers the columns of the installed and of the desired entries. -/
theorem mem_target {t : Nat × Float} (member : t ∈ (between installed desired).target.toList) :
    ∃ u ∈ installed ++ desired, u.1 = t.1 := by
  refine (get?_target_isSome t.1).1 ?_
  rw [Sparse.mem_toList_iff.1 member]
  rfl

theorem valuesAt_installed_of_target {j : Nat}
    (absent : (between installed desired).target.get? j = none) : valuesAt j installed = [] := by
  refine valuesAt_eq_nil fun t member same => ?_
  have listed := (get?_target_isSome j).2 ⟨t, List.mem_append_left desired member, same⟩
  rw [absent] at listed
  cases listed

theorem sorted_columns (d : RowDelta) : d.columns.Pairwise (· < ·) :=
  List.pairwise_map.2 d.target.sorted

theorem mem_columns_iff {j : Nat} :
    j ∈ (between installed desired).columns ↔ ∃ t ∈ installed ++ desired, t.1 = j := by
  rw [← get?_target_isSome, Option.isSome_iff_exists]
  constructor
  · intro member
    obtain ⟨t, listed, rfl⟩ := List.mem_map.1 member
    exact ⟨t.2, Sparse.mem_toList_iff.1 listed⟩
  · rintro ⟨x, found⟩
    exact List.mem_map.2 ⟨(j, x), Sparse.mem_toList_iff.2 found, rfl⟩

theorem isNoop_iff_found :
    (between installed desired).isNoop = true ↔
      ∀ j x, (between installed desired).target.get? j = some x →
        ∃ y, (netCoefficients installed).get? j = some y ∧ (y == x) = true := by
  refine List.all_eq_true.trans ⟨fun all j x found => ?_, fun found t member => ?_⟩
  · have here := all (j, x) (Sparse.mem_toList_iff.2 found)
    dsimp only at here
    split at here
    · exact ⟨_, ‹_›, here⟩
    · cases here
  · obtain ⟨y, there, same⟩ := found t.1 t.2 (Sparse.mem_toList_iff.1 member)
    dsimp only
    rw [there]
    exact same

/-- A delta changes nothing just if no column is new and every net coefficient is there already. -/
theorem isNoop_iff :
    (between installed desired).isNoop = true ↔
      (∀ t ∈ desired, ∃ u ∈ installed, u.1 = t.1) ∧
        ∀ j, ((netCoefficients installed).getD j == (netCoefficients desired).getD j) = true := by
  rw [isNoop_iff_found]
  have wanted (j : Nat) := @getD_target installed desired j
  constructor
  · intro kept
    constructor
    · intro t member
      obtain ⟨x, found⟩ := Option.isSome_iff_exists.1
        ((get?_target_isSome t.1).2 ⟨t, List.mem_append_right installed member, rfl⟩)
      obtain ⟨y, there, -⟩ := kept t.1 x found
      exact get?_netCoefficients_isSome.1 (Option.isSome_of_mem there)
    · intro j
      rw [← wanted]
      unfold Sparse.getD
      cases found : (between installed desired).target.get? j with
      | none =>
        -- the column is in neither list
        have absent : (netCoefficients installed).get? j = none := by
          rw [← Option.not_isSome_iff_eq_none, get?_netCoefficients_isSome]
          rintro ⟨t, member, here⟩
          have listed := (get?_target_isSome j).2 ⟨t, List.mem_append_left desired member, here⟩
          rw [found] at listed
          cases listed
        rw [absent]
        rfl
      | some x =>
        obtain ⟨y, there, same⟩ := kept j x found
        rw [there]
        exact same
  · rintro ⟨covered, same⟩ j x found
    have listed : ∃ u ∈ installed, u.1 = j := by
      obtain ⟨u, either, here⟩ := mem_target (Sparse.mem_toList_iff.2 found)
      rcases List.mem_append.1 either with old | new
      · exact ⟨u, old, here⟩
      · obtain ⟨v, old, there⟩ := covered u new
        exact ⟨v, old, there.trans here⟩
    obtain ⟨y, there⟩ := Option.isSome_iff_exists.1 (get?_netCoefficients_isSome.2 listed)
    have equal := same j
    rw [← wanted] at equal
    unfold Sparse.getD at equal
    rw [found, there] at equal
    exact ⟨y, there, equal⟩

/-- The columns of a delta have one entry each afterwards, with the coefficient that is desired. -/
theorem valuesAt_setEntries_target (j : Nat) :
    valuesAt j (setEntries installed (between installed desired).target.toList) =
      if j ∈ (between installed desired).columns then [(netCoefficients desired).getD j] else [] := by
  rw [valuesAt_setEntries (Sparse.distinct_toList _), Sparse.valuesAt_toList,
    ← @getD_target installed desired j]
  have listed := @get?_target_isSome installed desired j
  rw [← mem_columns_iff] at listed
  unfold Sparse.getD
  cases found : (between installed desired).target.get? j with
  | none =>
    have absent : j ∉ (between installed desired).columns := by
      rw [← listed, found]
      nofun
    rw [if_neg absent]
    exact valuesAt_installed_of_target found
  | some x =>
    have present : j ∈ (between installed desired).columns := by
      rw [← listed, found]
      rfl
    rw [if_pos present]
    rfl

theorem agrees_setEntries_target (j : Nat) :
    Agrees ((netCoefficients
      (setEntries installed (between installed desired).target.toList)).getD j)
      ((netCoefficients desired).getD j) := by
  have values := @valuesAt_setEntries_target installed desired j
  rw [netCoefficients, Sparse.getD_accumulateList, values]
  split
  · exact .zero_add rfl _
  · rename_i uncovered
    rw [getD_netCoefficients_of_absent fun t listed same =>
      uncovered (mem_columns_iff.2 ⟨t, List.mem_append_right installed listed, same⟩)]
    exact .refl 0

/-- The entries of a row that has taken over a delta. -/
def installedEntries (d : RowDelta) (entries : List (Nat × Float)) : List (Nat × Float) :=
  if d.isNoop then entries else setEntries entries d.target.toList

theorem agrees_installed (installed desired : List (Nat × Float)) (j : Nat) :
    Agrees ((netCoefficients ((between installed desired).installedEntries installed)).getD j)
      ((netCoefficients desired).getD j) := by
  unfold installedEntries
  split
  · rename_i noop
    exact .of_beq ((isNoop_iff.1 noop).2 j)
  · exact agrees_setEntries_target j

/-- A row that has taken over a delta has nothing more to take over, if its numbers are defined. -/
theorem isNoop_again (numbers : ∀ j, ((netCoefficients desired).getD j).isNaN = false) :
    (between ((between installed desired).installedEntries installed) desired).isNoop = true := by
  refine isNoop_iff.2 ⟨fun t member => ?_, fun j =>
    (agrees_installed installed desired j).beq (numbers j)⟩
  unfold installedEntries
  split
  · rename_i noop
    exact (isNoop_iff.1 noop).1 t member
  · have listed : t.1 ∈ (between installed desired).columns :=
      mem_columns_iff.2 ⟨t, List.mem_append_right installed member, rfl⟩
    have value := @valuesAt_setEntries_target installed desired t.1
    rw [if_pos listed] at value
    by_contra absent
    push Not at absent
    rw [valuesAt_eq_nil absent] at value
    cases value

end RowDelta

end LinProg
