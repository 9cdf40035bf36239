import Mathlib
import LinProg.Proofs.Matrix.Import

/-!
# What edits do to columns

A column keeps its place and its bounds, whatever is edited: `getElem?_applyAll`.  Its objective
coefficient is changed by the edits of the objective, and by no others.
-/

namespace LinProg

/-- The edit changes no objective coefficient, and brings columns without one at most. -/
def Edit.SparesObjective : Edit → Prop
  | addColumns columns => ∀ c ∈ columns, c.objective = 0
  | addColumn _ _ | setObjective .. | setObjectiveCoefficient .. => False
  | _ => True

namespace Body

variable {b : Body} {e : Edit} {c : MatrixColumn} {j : Nat}

theorem getElem?_modifyColumn (b : Body) (i j : Nat) (f : MatrixColumn → MatrixColumn) :
    (b.modifyColumn i f).columns[j]? = if i = j then b.columns[j]?.map f else b.columns[j]? := by
  show (b.columns.modify i f)[j]? = _
  rw [List.getElem?_modify]
  split
  · rfl
  · cases b.columns[j]? <;> rfl

theorem columns_addColumn (b : Body) (c : MatrixColumn) (memberships : List (Nat × Float)) :
    (b.addColumn c memberships).columns = b.columns ++ [c] :=
  columns_pushAll _ _ memberships

theorem getElem?_setObjective (b : Body) (terms : List (Nat × Float)) (constant : Float)
    (sense : Sense) (j : Nat) :
    (b.setObjective terms constant sense).columns[j]? = b.columns[j]?.map fun c =>
      { c with objective := (valuesAt j terms).foldl (· + ·) 0 } := by
  refine (getElem?_addToObjective _ terms j).trans ?_
  rw [List.getElem?_map, Option.map_map]
  rfl

theorem getElem?_apply (present : b.columns[j]? = some c) (e : Edit) :
    ∃ objective domain name,
      (b.apply e).columns[j]? = some { c with objective, domain, name } := by
  obtain ⟨within, -⟩ := List.getElem?_eq_some_iff.1 present
  cases e with
  | addColumns columns =>
    exact ⟨_, _, _, (List.getElem?_append_left within).trans present⟩
  | addColumn column memberships =>
    refine ⟨_, _, _, Eq.trans ?_ present⟩
    rw [apply, columns_addColumn]
    exact List.getElem?_append_left within
  | setObjective terms constant sense =>
    rw [apply, getElem?_setObjective, present]
    exact ⟨_, _, _, rfl⟩
  | changeCoefficients batch =>
    rw [apply, columns_changeCoefficients]
    exact ⟨_, _, _, present⟩
  | setObjectiveCoefficient | setDomain | setColumnName =>
    rw [apply, getElem?_modifyColumn, present]
    split
    · exact ⟨_, _, _, rfl⟩
    · exact ⟨_, _, _, rfl⟩
  | addRow | setRhs | setRowName => exact ⟨_, _, _, present⟩

theorem getElem?_applyAll (present : b.columns[j]? = some c) (edits : List Edit) :
    ∃ objective domain name,
      (b.applyAll edits).columns[j]? = some { c with objective, domain, name } := by
  induction edits generalizing b c with
  | nil => exact ⟨_, _, _, present⟩
  | cons e edits ih =>
    obtain ⟨_, _, _, there⟩ := getElem?_apply present e
    obtain ⟨_, _, _, after⟩ := ih there
    exact ⟨_, _, _, after⟩

/-! ### Objective coefficients -/

/-- The objective coefficient of a column, zero beyond the last column. -/
def objectiveCoefficient (b : Body) (j : Nat) : Float :=
  (b.columns[j]?.map (·.objective)).getD 0

theorem objectiveCoefficient_append {columns : List MatrixColumn}
    (none : ∀ c ∈ columns, c.objective = 0) (j : Nat) :
    objectiveCoefficient { b with columns := b.columns ++ columns } j = b.objectiveCoefficient j := by
  unfold objectiveCoefficient
  dsimp only
  rcases Nat.lt_or_ge j b.columns.length with old | new
  · rw [List.getElem?_append_left old]
  · rw [List.getElem?_append_right new, List.getElem?_eq_none new]
    cases there : columns[j - b.columns.length]? with
    | none => rfl
    | some c => exact none c (List.mem_of_getElem? there)

theorem objectiveCoefficient_addColumn (b : Body) (c : MatrixColumn)
    (memberships : List (Nat × Float)) (j : Nat) :
    (b.addColumn c memberships).objectiveCoefficient j =
      if j = b.columns.length then c.objective else b.objectiveCoefficient j := by
  unfold objectiveCoefficient
  rw [columns_addColumn]
  rcases Nat.lt_trichotomy j b.columns.length with old | rfl | beyond
  · rw [List.getElem?_append_left old, if_neg (Nat.ne_of_lt old)]
  · rw [List.getElem?_concat_length, if_pos rfl]
    rfl
  · rw [if_neg (Nat.ne_of_gt beyond), List.getElem?_eq_none (Nat.le_of_lt beyond),
      List.getElem?_eq_none (by simpa using beyond)]

theorem sense_addColumn (b : Body) (c : MatrixColumn) (memberships : List (Nat × Float)) :
    (b.addColumn c memberships).sense = b.sense ∧
      (b.addColumn c memberships).constant = b.constant := by
  unfold addColumn
  generalize b.columns.length = index
  suffices h : ∀ start : Body,
      (memberships.foldl (fun b t => b.modifyRow t.1 fun r => r.push index t.2) start).sense =
          start.sense ∧
        (memberships.foldl (fun b t => b.modifyRow t.1 fun r => r.push index t.2) start).constant =
          start.constant from h _
  intro start
  induction memberships generalizing start with
  | nil => exact ⟨rfl, rfl⟩
  | cons t rest ih => exact ih _

theorem objectiveCoefficient_setObjectiveCoefficient {i : Nat} (within : i < b.columns.length)
    (value : Float) (j : Nat) :
    (b.apply (.setObjectiveCoefficient i value)).objectiveCoefficient j =
      if j = i then value else b.objectiveCoefficient j := by
  unfold objectiveCoefficient
  rw [apply, getElem?_modifyColumn]
  by_cases same : j = i
  · rw [if_pos same.symm, if_pos same, same, List.getElem?_eq_getElem within]
    rfl
  · rw [if_neg (Ne.symm same), if_neg same]

theorem objectiveCoefficient_setObjective {terms : List (Nat × Float)}
    (within : ∀ t ∈ terms, t.1 < b.columns.length) (constant : Float) (sense : Sense) (j : Nat) :
    (b.setObjective terms constant sense).objectiveCoefficient j =
      (valuesAt j terms).foldl (· + ·) 0 := by
  unfold objectiveCoefficient
  rw [getElem?_setObjective]
  rcases Nat.lt_or_ge j b.columns.length with inside | beyond
  · rw [List.getElem?_eq_getElem inside]
    rfl
  · have absent : valuesAt j terms = [] := by
      apply valuesAt_eq_nil
      intro t listed
      exact Nat.ne_of_lt ((within t listed).trans_le beyond)
    rw [List.getElem?_eq_none beyond, absent]
    rfl

theorem sense_changeCoefficients (b : Body) (batch : List (Nat × Nat × Float)) :
    (b.changeCoefficients batch).sense = b.sense ∧
      (b.changeCoefficients batch).constant = b.constant := by
  unfold changeCoefficients
  induction batch generalizing b with
  | nil => exact ⟨rfl, rfl⟩
  | cons t rest ih => exact ih _

/-- An edit that spares the objective leaves its sense, its constant and its coefficients. -/
theorem objective_apply (spares : e.SparesObjective) (b : Body) :
    (b.apply e).sense = b.sense ∧ (b.apply e).constant = b.constant ∧
      ∀ j, (b.apply e).objectiveCoefficient j = b.objectiveCoefficient j := by
  cases e with
  | addColumns columns => exact ⟨rfl, rfl, objectiveCoefficient_append spares⟩
  | addColumn | setObjective | setObjectiveCoefficient => exact spares.elim
  | changeCoefficients batch =>
    obtain ⟨sense, constant⟩ := sense_changeCoefficients b batch
    refine ⟨sense, constant, fun j => ?_⟩
    unfold objectiveCoefficient
    rw [apply, columns_changeCoefficients]
  | setDomain | setColumnName =>
    refine ⟨rfl, rfl, fun j => ?_⟩
    unfold objectiveCoefficient
    rw [apply, getElem?_modifyColumn]
    split
    · cases b.columns[j]? <;> rfl
    · rfl
  | addRow | setRhs | setRowName => exact ⟨rfl, rfl, fun _ => rfl⟩

theorem objective_applyAll {edits : List Edit} (spares : ∀ e ∈ edits, e.SparesObjective) (b : Body) :
    (b.applyAll edits).sense = b.sense ∧ (b.applyAll edits).constant = b.constant ∧
      ∀ j, (b.applyAll edits).objectiveCoefficient j = b.objectiveCoefficient j := by
  induction edits generalizing b with
  | nil => exact ⟨rfl, rfl, fun _ => rfl⟩
  | cons e edits ih =>
    obtain ⟨first, rest⟩ := List.forall_mem_cons.1 spares
    obtain ⟨sense, constant, coefficients⟩ := objective_apply first b
    obtain ⟨sense', constant', coefficients'⟩ := ih rest (b.apply e)
    refine ⟨sense'.trans sense, constant'.trans constant, ?_⟩
    intro j
    exact (coefficients' j).trans (coefficients j)

end Body

end LinProg
