import Mathlib
import LinProg.Lp.Document

/-!
# The variable table

`lookup` is what a table says about a name; entering, changing and bounding a name act on it key by
key.  A table whose bound lines list every name once is ordered like those lines: `ordered_eq_map`.
-/

namespace LinProg.Lp.VariableTable

def lookup (t : VariableTable) (name : String) : Option Declared :=
  t.declared.find? (·.name = name)

/-- The variable with a name, a fresh one if the table has none. -/
def lookupD (t : VariableTable) (name : String) : Declared := (t.lookup name).getD (fresh name)

variable {t : VariableTable} {name other : String} {f : Declared → Declared}

theorem lookup_enter :
    (t.enter name).lookup other =
      if other = name then some (t.lookupD name) else t.lookup other := by
  unfold enter lookupD lookup
  split
  · rename_i listed
    split
    · rename_i same
      subst same
      obtain ⟨v, member, named⟩ := List.any_eq_true.1 listed
      have found : (t.declared.find? (·.name = other)).isSome := by
        rw [List.find?_isSome]
        exact ⟨v, member, named⟩
      obtain ⟨w, shape⟩ := Option.isSome_iff_exists.1 found
      rw [shape]
      rfl
    · rfl
  · rename_i absent
    have missing : t.declared.find? (·.name = name) = none := by
      rw [List.find?_eq_none]
      exact fun v member named => absent (List.any_eq_true.2 ⟨v, member, named⟩)
    rw [List.find?_append]
    split
    · rename_i same
      subst same
      rw [missing]
      simp [fresh]
    · rename_i different
      have distinct : ¬name = other := fun same => different same.symm
      cases t.declared.find? (·.name = other) with
      | some v => rfl
      | none => simp [fresh, distinct]

theorem lookup_map_if (keeps : ∀ v, (f v).name = v.name) (l : List Declared) :
    (l.map fun v => if v.name = name then f v else v).find? (·.name = other) =
      if other = name then (l.find? (·.name = name)).map f else l.find? (·.name = other) := by
  have named (v : Declared) : (if v.name = name then f v else v).name = v.name := by
    split
    · exact keeps v
    · rfl
  induction l with
  | nil =>
    split <;> rfl
  | cons v rest ih =>
    rw [List.map_cons, List.find?_cons, List.find?_cons, List.find?_cons, named, ih]
    by_cases same : other = name
    · subst same
      by_cases here : v.name = other
      · simp [here]
      · simp [here]
    · by_cases here : v.name = other
      · have elsewhere : ¬v.name = name := fun h => same (here.symm.trans h)
        simp [here, same]
      · simp [here, same]

theorem lookup_update (keeps : ∀ v, (f v).name = v.name) :
    (t.update name f).lookup other =
      if other = name then some (f (t.lookupD name)) else t.lookup other := by
  have entered := @lookup_enter t name other
  have first := @lookup_enter t name name
  rw [if_pos rfl] at first
  unfold update
  refine (lookup_map_if keeps _).trans ?_
  split
  · exact congrArg (Option.map f) first
  · rename_i different
    rw [if_neg different] at entered
    exact entered

theorem bounded_enter : (t.enter name).bounded = t.bounded := by
  unfold enter
  split <;> rfl

theorem bounded_update : (t.update name f).bounded = t.bounded := bounded_enter

/-! ### Changing several variables -/

section Steps

variable {β : Type} {u : VariableTable → β → VariableTable} {key : β → String}
  {g : β → Declared → Declared}

theorem lookup_foldl_of_not_mem
    (step : ∀ t b m, (u t b).lookup m =
      if m = key b then some (g b (t.lookupD m)) else t.lookup m)
    {bs : List β} {m : String} (absent : m ∉ bs.map key) (t : VariableTable) :
    (bs.foldl u t).lookup m = t.lookup m := by
  induction bs generalizing t with
  | nil => rfl
  | cons b bs ih =>
    rw [List.map_cons, List.mem_cons, not_or] at absent
    rw [List.foldl_cons, ih absent.2, step, if_neg absent.1]

theorem lookup_foldl_of_mem
    (step : ∀ t b m, (u t b).lookup m =
      if m = key b then some (g b (t.lookupD m)) else t.lookup m)
    {bs : List β} (distinct : (bs.map key).Nodup) {b : β} (member : b ∈ bs) (t : VariableTable) :
    (bs.foldl u t).lookup (key b) = some (g b (t.lookupD (key b))) := by
  induction bs generalizing t with
  | nil => cases member
  | cons a bs ih =>
    rw [List.map_cons, List.nodup_cons] at distinct
    rw [List.foldl_cons]
    rcases List.mem_cons.1 member with rfl | later
    · rw [lookup_foldl_of_not_mem step distinct.1, step, if_pos rfl]
    · have different : key b ≠ key a := fun same =>
        distinct.1 (same ▸ List.mem_map_of_mem later)
      rw [ih distinct.2 later]
      unfold lookupD
      rw [step, if_neg different]

end Steps

theorem bounded_foldl_update {β : Type} {key : β → String} (bs : List β) (t : VariableTable) :
    (bs.foldl (fun t b => t.update (key b) f) t).bounded = t.bounded := by
  induction bs generalizing t with
  | nil => rfl
  | cons b bs ih => rw [List.foldl_cons, ih, bounded_update]

theorem bounded_foldl_bound {β : Type} {key : β → String} {g : β → Declared → Declared}
    (bs : List β) (t : VariableTable) :
    (bs.foldl (fun t b => t.bound (key b) (g b)) t).bounded = t.bounded ++ bs.map key := by
  induction bs generalizing t with
  | nil => exact (List.append_nil _).symm
  | cons b bs ih =>
    rw [List.foldl_cons, ih, List.map_cons, List.append_cons]
    show (t.update (key b) (g b)).bounded ++ [key b] ++ _ = _
    rw [bounded_update]

/-! ### The order of a table -/

theorem eraseDups_eq_self {names : List String} (distinct : names.Nodup) :
    names.eraseDups = names := by
  induction names with
  | nil => rfl
  | cons name rest ih =>
    rw [List.nodup_cons] at distinct
    have others : rest.filter (fun other => !other == name) = rest := by
      rw [List.filter_eq_self]
      intro other member
      have different : other ≠ name := fun same => distinct.1 (same ▸ member)
      simp [different]
    rw [List.eraseDups_cons, others, ih distinct.2]

theorem ordered_eq_map {β : Type} {key : β → String} {value : β → Declared} {bs : List β}
    (bounded : t.bounded = bs.map key) (distinct : (bs.map key).Nodup)
    (found : ∀ b ∈ bs, t.lookup (key b) = some (value b))
    (within : ∀ m, m ∉ bs.map key → t.lookup m = none) : t.ordered = bs.map value := by
  have rest : t.declared.filter (fun v => v.name ∉ bs.map key) = [] := by
    rw [List.filter_eq_nil_iff]
    intro v member outside
    have missing := List.find?_eq_none.1 (within v.name (of_decide_eq_true outside)) v member
    exact missing (decide_eq_true rfl)
  unfold ordered
  rw [bounded, eraseDups_eq_self distinct, rest, List.append_nil, List.filterMap_map]
  refine (List.filterMap_congr found).trans ?_
  exact congrFun List.filterMap_eq_map' bs

end LinProg.Lp.VariableTable
