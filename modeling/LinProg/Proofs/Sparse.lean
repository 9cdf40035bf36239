import Mathlib
import LinProg.Proofs.Number.Arithmetic
import LinProg.Sparse

/-!
# Sums of sparse vectors

A list of entries may have several for one key; `valuesAt` are those of one key, in order.
Accumulating the list adds them up from the left, starting from zero: `getD_accumulateList`.
-/

namespace LinProg

/-- The values that a list has for a key, in order. -/
def valuesAt {κ : Type} [DecidableEq κ] (k : κ) (entries : List (κ × Float)) : List Float :=
  (entries.filter (·.1 = k)).map (·.2)

section ValuesAt

variable {κ : Type} [DecidableEq κ] {k j : κ} {x : Float} {entries more : List (κ × Float)}

@[simp] theorem valuesAt_nil : valuesAt k [] = [] := rfl

theorem valuesAt_cons :
    valuesAt k ((j, x) :: entries) = if j = k then x :: valuesAt k entries else valuesAt k entries := by
  unfold valuesAt
  rw [List.filter_cons]
  by_cases same : j = k
  · rw [if_pos (decide_eq_true same), if_pos same, List.map_cons]
  · rw [if_neg (by simpa using same), if_neg same]

@[simp] theorem valuesAt_append :
    valuesAt k (entries ++ more) = valuesAt k entries ++ valuesAt k more := by
  unfold valuesAt
  rw [List.filter_append, List.map_append]

theorem valuesAt_eq_nil (absent : ∀ t ∈ entries, t.1 ≠ k) : valuesAt k entries = [] := by
  unfold valuesAt
  rw [List.map_eq_nil_iff, List.filter_eq_nil_iff]
  intro t member
  simpa using absent t member

end ValuesAt

namespace Sparse

variable {κ : Type} [LT κ] [DecidableLT κ] [DecidableEq κ] [Key κ]

/-! ### Entries and values -/

omit [DecidableLT κ] [DecidableEq κ] in
theorem distinct_toList (s : Sparse κ) : s.toList.Pairwise fun a b => a.1 ≠ b.1 := by
  refine s.sorted.imp fun {a b} less same => ?_
  rw [same] at less
  exact Key.irrefl _ less

omit [DecidableLT κ] in
/-- A key has at most one value. -/
theorem valuesAt_toList (s : Sparse κ) (k : κ) : valuesAt k s.toList = (s.get? k).toList := by
  have distinct := s.distinct_toList
  unfold get?
  generalize s.toList = entries at distinct
  induction entries with
  | nil => rfl
  | cons head rest ih =>
    obtain ⟨first, others⟩ := List.pairwise_cons.1 distinct
    rw [valuesAt_cons, List.find?_cons]
    by_cases same : head.1 = k
    · have absent : valuesAt k rest = [] :=
        valuesAt_eq_nil fun t member h => first t member (same.trans h.symm)
      simp [same, absent]
    · simp [same, ih others]

omit [DecidableLT κ] in
theorem mem_toList_iff {s : Sparse κ} {k : κ} {x : Float} :
    (k, x) ∈ s.toList ↔ s.get? k = some x := by
  have values := valuesAt_toList s k
  constructor
  · intro member
    have listed : x ∈ valuesAt k s.toList :=
      List.mem_map.2 ⟨(k, x), List.mem_filter.2 ⟨member, decide_eq_true rfl⟩, rfl⟩
    rw [values] at listed
    exact Option.mem_toList.1 listed
  · intro found
    have listed : x ∈ valuesAt k s.toList := by
      rw [values, found]
      exact List.mem_singleton_self x
    obtain ⟨⟨j, y⟩, picked, rfl⟩ := List.mem_map.1 listed
    obtain ⟨member, same⟩ := List.mem_filter.1 picked
    exact of_decide_eq_true same ▸ member

omit [DecidableLT κ] [Key κ] in
theorem isSome_get?_iff {s : Sparse κ} {k : κ} : (s.get? k).isSome ↔ k ∈ s.toList.map (·.1) := by
  unfold get?
  rw [Option.isSome_map, List.find?_isSome, List.mem_map]
  simp

omit [DecidableLT κ] [Key κ] in
theorem get?_map (s : Sparse κ) (f : Float → Float) (k : κ) :
    (s.map f).get? k = (s.get? k).map f := by
  unfold get? map
  rw [List.find?_map, Option.map_map, Option.map_map]
  rfl

/-! ### Accumulating -/

theorem get?_accumulate (s : Sparse κ) (k : κ) (x : Float) (j : κ) :
    (s.accumulate k x).get? j = if j = k then some (s.getD k + x) else s.get? j :=
  get?_alter s k _ j

theorem getD_accumulate (s : Sparse κ) (k : κ) (x : Float) (j : κ) :
    (s.accumulate k x).getD j = if j = k then s.getD j + x else s.getD j := by
  unfold getD
  rw [get?_accumulate]
  split
  · rename_i same
    rw [same]
    rfl
  · rfl

theorem getD_foldl_accumulate (entries : List (κ × Float)) (s : Sparse κ) (j : κ) :
    (entries.foldl (fun s e => s.accumulate e.1 e.2) s).getD j =
      (valuesAt j entries).foldl (· + ·) (s.getD j) := by
  induction entries generalizing s with
  | nil => rfl
  | cons head rest ih =>
    obtain ⟨k, x⟩ := head
    rw [List.foldl_cons, ih, getD_accumulate, valuesAt_cons]
    by_cases same : j = k
    · rw [if_pos same, if_pos same.symm, List.foldl_cons]
    · rw [if_neg same, if_neg fun h => same h.symm]

theorem get?_foldl_accumulate_isSome (entries : List (κ × Float)) (s : Sparse κ) (j : κ) :
    ((entries.foldl (fun s e => s.accumulate e.1 e.2) s).get? j).isSome ↔
      (s.get? j).isSome ∨ ∃ t ∈ entries, t.1 = j := by
  induction entries generalizing s with
  | nil => simp
  | cons head rest ih =>
    rw [List.foldl_cons, ih, get?_accumulate]
    by_cases same : j = head.1
    · simp [same]
    · have other : ¬head.1 = j := fun h => same h.symm
      simp [same, other]

/-- A key with values in the list adds them to the value that it has. -/
theorem get?_foldl_accumulate (entries : List (κ × Float)) (s : Sparse κ) (j : κ) :
    (entries.foldl (fun s e => s.accumulate e.1 e.2) s).get? j =
      if valuesAt j entries = [] then s.get? j
      else some ((valuesAt j entries).foldl (· + ·) (s.getD j)) := by
  induction entries generalizing s with
  | nil => rfl
  | cons head rest ih =>
    obtain ⟨k, x⟩ := head
    rw [List.foldl_cons, ih, get?_accumulate, getD_accumulate, valuesAt_cons]
    by_cases same : j = k
    · subst same
      by_cases last : valuesAt j rest = [] <;> simp [last]
    · have other : ¬k = j := fun h => same h.symm
      rw [if_neg same, if_neg same, if_neg other]

/-- The sum of the values of a key, from the left. -/
theorem getD_accumulateList (entries : List (κ × Float)) (j : κ) :
    (accumulateList entries).getD j = (valuesAt j entries).foldl (· + ·) 0 :=
  getD_foldl_accumulate entries empty j

/-! ### Adding -/

theorem get?_add (s : Sparse κ) (k : κ) (x : Float) (j : κ) :
    (s.add k x).get? j =
      if j = k then some (match s.get? k with | some v => v + x | none => x) else s.get? j :=
  get?_alter s k _ j

/-- A key takes the values of a list one by one; the first of them as it is if the key is new. -/
theorem get?_foldl_add (entries : List (κ × Float)) (s : Sparse κ) (j : κ) :
    (entries.foldl (fun s t => s.add t.1 t.2) s).get? j =
      (valuesAt j entries).foldl (fun v x => v.merge (· + ·) (some x)) (s.get? j) := by
  induction entries generalizing s with
  | nil => rfl
  | cons head rest ih =>
    obtain ⟨k, x⟩ := head
    rw [List.foldl_cons, ih, get?_add, valuesAt_cons]
    by_cases same : j = k
    · subst same
      rw [if_pos rfl, if_pos rfl, List.foldl_cons]
      cases s.get? j <;> rfl
    · rw [if_neg same, if_neg (Ne.symm same)]

theorem exists_of_mem_foldl_add {s : Sparse κ} {entries : List (κ × Float)} {t : κ × Float}
    (member : t ∈ (entries.foldl (fun s t => s.add t.1 t.2) s).toList) :
    ∃ u ∈ s.toList ++ entries, u.1 = t.1 := by
  induction entries generalizing s with
  | nil => exact ⟨t, List.mem_append_left _ member, rfl⟩
  | cons head rest ih =>
    obtain ⟨u, listed, same⟩ := ih member
    rcases List.mem_append.1 listed with old | new
    · rcases mem_alterList old with here | kept
      · exact ⟨head, List.mem_append_right _ List.mem_cons_self, here.symm.trans same⟩
      · exact ⟨u, List.mem_append_left _ kept, same⟩
    · exact ⟨u, List.mem_append_right _ (List.mem_cons_of_mem _ new), same⟩

/-! ### Setting -/

def setAll (s : Sparse κ) (entries : List (κ × Float)) : Sparse κ :=
  entries.foldl (fun s e => s.set e.1 e.2) s

theorem setAll_append (s : Sparse κ) (entries more : List (κ × Float)) :
    s.setAll (entries ++ more) = (s.setAll entries).setAll more := List.foldl_append

theorem get?_set (s : Sparse κ) (k : κ) (x : Float) (j : κ) :
    (s.set k x).get? j = if j = k then some x else s.get? j := get?_alter s k _ j

/-- The last value that a list has for a key stays. -/
theorem get?_setAll (entries : List (κ × Float)) (s : Sparse κ) (k : κ) :
    (s.setAll entries).get? k = (valuesAt k entries).getLast?.or (s.get? k) := by
  induction entries generalizing s with
  | nil => rfl
  | cons e entries ih =>
    show ((s.set e.1 e.2).setAll entries).get? k = _
    rw [ih, get?_set, valuesAt_cons]
    by_cases same : k = e.1
    · rw [if_pos same, if_pos same.symm, List.getLast?_cons]
      cases (valuesAt k entries).getLast? <;> rfl
    · rw [if_neg same, if_neg (Ne.symm same)]

theorem get?_setAll_of_not_mem {entries : List (κ × Float)} {k : κ}
    (absent : ∀ e ∈ entries, e.1 ≠ k) (s : Sparse κ) : (s.setAll entries).get? k = s.get? k := by
  induction entries generalizing s with
  | nil => rfl
  | cons e entries ih =>
    obtain ⟨first, others⟩ := List.forall_mem_cons.1 absent
    show ((s.set e.1 e.2).setAll entries).get? k = _
    rw [ih others, get?_set, if_neg (Ne.symm first)]

theorem mem_of_get?_setAll {entries : List (κ × Float)} {s : Sparse κ} {k : κ} {x : Float}
    (found : (s.setAll entries).get? k = some x) : s.get? k = some x ∨ ∃ e ∈ entries, e.1 = k := by
  by_cases listed : ∃ e ∈ entries, e.1 = k
  · exact .inr listed
  · rw [get?_setAll_of_not_mem fun e member same => listed ⟨e, member, same⟩] at found
    exact .inl found

/-- The last value of a key stays; it is the value that all its entries have. -/
theorem get?_setAll_of_mem {entries : List (κ × Float)} {k : κ} {x : Float}
    (member : (k, x) ∈ entries) (only : ∀ e ∈ entries, e.1 = k → e.2 = x) (s : Sparse κ) :
    (s.setAll entries).get? k = some x := by
  induction entries generalizing s with
  | nil => cases member
  | cons e entries ih =>
    obtain ⟨first, others⟩ := List.forall_mem_cons.1 only
    show ((s.set e.1 e.2).setAll entries).get? k = _
    by_cases again : (k, x) ∈ entries
    · exact ih again others _
    · have here : (k, x) = e := (List.mem_cons.1 member).resolve_right again
      rw [get?_setAll_of_not_mem, get?_set, if_pos (congrArg Prod.fst here), ← here]
      intro d listed same
      have value := others d listed same
      apply again
      rw [← same, ← value]
      exact listed

omit [DecidableLT κ] in
theorem isEmpty_of_get? {s : Sparse κ} {k : κ} {x : Float} (found : s.get? k = some x) :
    s.isEmpty = false := by
  have member := mem_toList_iff.2 found
  unfold isEmpty
  cases entries : s.toList with
  | nil => simp [entries] at member
  | cons e rest => rfl

theorem isEmpty_setAll (entries : List (κ × Float)) (s : Sparse κ) :
    (s.setAll entries).isEmpty = (s.isEmpty && entries.isEmpty) := by
  induction entries generalizing s with
  | nil => exact (Bool.and_true _).symm
  | cons e entries ih =>
    have found : (s.set e.1 e.2).get? e.1 = some e.2 := by rw [get?_set, if_pos rfl]
    have filled := isEmpty_of_get? found
    show ((s.set e.1 e.2).setAll entries).isEmpty = _
    rw [ih, filled, List.isEmpty_cons, Bool.false_and, Bool.and_false]

end Sparse

end LinProg
