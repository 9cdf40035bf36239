import Mathlib
import LinProg.Matrix.Attribute
import LinProg.Matrix.Solve
import LinProg.Proofs.Matrix.View

/-!
# Checked accesses

Every operation that refers to columns and rows by position has a checked twin here, which gives
nothing as soon as one position is not there.  Where the positions exist the twin gives what the
operation gives: `apply_eq`, `applyAll_eq`, `text_eq`, `values_eq`, `pick_eq`.
-/

namespace LinProg

/-! ### What edits refer to -/

/-- The columns and rows that the edit refers to exist, given how many there are. -/
def Edit.Within (columns rows : Nat) : Edit → Prop
  | addColumns _ => True
  | addColumn _ memberships => ∀ t ∈ memberships, t.1 < rows
  | addRow row => ∀ t ∈ row.entries, t.1 < columns
  | setObjective terms _ _ => ∀ t ∈ terms, t.1 < columns
  | changeCoefficients batch => ∀ t ∈ batch, t.1 < rows ∧ t.2.1 < columns
  | setRhs row _ | setRowName row _ => row < rows
  | setObjectiveCoefficient column _ | setDomain column _ | setColumnName column _ =>
    column < columns

theorem Edit.Within.fits {columns rows : Nat} {e : Edit} (within : e.Within columns rows) :
    e.Fits columns := by
  cases e with
  | addRow row => exact within
  | changeCoefficients batch => exact fun t listed => (within t listed).2
  | _ => trivial

namespace Body

/-- Each edit refers to columns and rows that exist once the edits before it are carried out. -/
def Admits (b : Body) : List Edit → Prop
  | [] => True
  | e :: rest => e.Within b.columns.length b.rows.length ∧ (b.apply e).Admits rest

variable {b : Body} {edits : List Edit} {e : Edit}

theorem applyAll_cons (b : Body) (e : Edit) (rest : List Edit) :
    b.applyAll (e :: rest) = (b.apply e).applyAll rest := rfl

theorem admits_concat :
    b.Admits (edits ++ [e]) ↔ b.Admits edits ∧
      e.Within (b.applyAll edits).columns.length (b.applyAll edits).rows.length := by
  induction edits generalizing b with
  | nil => exact and_comm
  | cons first rest ih =>
    rw [List.cons_append, Admits, Admits, ih, applyAll_cons, and_assoc]

theorem length_columns_applyAll (b : Body) (edits : List Edit) :
    (b.applyAll edits).columns.length = b.columns.length + (edits.map Edit.newColumns).sum := by
  induction edits generalizing b with
  | nil => rfl
  | cons e rest ih =>
    rw [applyAll_cons, ih, length_columns_apply, List.map_cons, List.sum_cons, Nat.add_assoc]

theorem length_rows_applyAll (b : Body) (edits : List Edit) :
    (b.applyAll edits).rows.length = b.rows.length + (edits.map Edit.newRows).sum := by
  induction edits generalizing b with
  | nil => rfl
  | cons e rest ih =>
    rw [applyAll_cons, ih, length_rows_apply, List.map_cons, List.sum_cons, Nat.add_assoc]

/-- The entries of the rows refer to columns of the body. -/
def Linked (b : Body) : Prop := b.Sound b.columns.length b.rows.length

theorem linked_iff : b.Linked ↔ ∀ r ∈ b.rows, ∀ t ∈ r.entries, t.1 < b.columns.length :=
  ⟨fun linked => linked.within, fun within => ⟨rfl, rfl, within⟩⟩

theorem linked_applyAll (linked : b.Linked) (admits : b.Admits edits) :
    (b.applyAll edits).Linked := by
  induction edits generalizing b with
  | nil => exact linked
  | cons e rest ih =>
    obtain ⟨within, others⟩ := admits
    have next := sound_apply linked within.fits
    rw [← length_columns_apply, ← length_rows_apply] at next
    exact ih next others

end Body

/-! ### Twins -/

namespace Checked

/-- A fold whose steps never fail along the way is the fold of what the steps give. -/
theorem foldlM_eq {α β : Type} {twin : β → α → Option β} {step : β → α → β} {P : β → Prop}
    {l : List α} {b : β} (start : P b)
    (keeps : ∀ b, P b → ∀ a ∈ l, twin b a = some (step b a) ∧ P (step b a)) :
    l.foldlM twin b = some (l.foldl step b) := by
  induction l generalizing b with
  | nil => rfl
  | cons a rest ih =>
    obtain ⟨first, next⟩ := keeps b start a List.mem_cons_self
    rw [List.foldlM_cons, first, List.foldl_cons]
    exact ih next fun b holds a listed => keeps b holds a (List.mem_cons_of_mem _ listed)

theorem mapM_eq {α β : Type} {twin : α → Option β} {f : α → β} {l : List α}
    (each : ∀ a ∈ l, twin a = some (f a)) : l.mapM twin = some (l.map f) := by
  induction l with
  | nil => rfl
  | cons a rest ih =>
    obtain ⟨first, others⟩ := List.forall_mem_cons.1 each
    rw [List.mapM_cons, first, ih others]
    rfl

section Edits

/-- Changes a column that has to exist. -/
def modifyColumn (b : Body) (column : Nat) (f : MatrixColumn → MatrixColumn) : Option Body :=
  if column < b.columns.length then some (b.modifyColumn column f) else none

def modifyRow (b : Body) (row : Nat) (f : MatrixRow → MatrixRow) : Option Body :=
  if row < b.rows.length then some (b.modifyRow row f) else none

/-- Adds a column with its coefficients in rows that have to exist. -/
def addColumn (b : Body) (column : MatrixColumn) (memberships : List (Nat × Float)) :
    Option Body :=
  let index := b.columns.length
  memberships.foldlM (fun b (row, value) => modifyRow b row fun r => r.push index value)
    { b with columns := b.columns ++ [column] }

def addToObjective (b : Body) (terms : List (Nat × Float)) : Option Body :=
  terms.foldlM (fun b (column, value) =>
    modifyColumn b column fun c => { c with objective := c.objective + value }) b

def setObjective (b : Body) (terms : List (Nat × Float)) (constant : Float) (sense : Sense) :
    Option Body := do
  let cleared : Body := { b with columns := b.columns.map fun c => { c with objective := 0 } }
  let summed ← addToObjective cleared terms
  return { summed with constant, sense }

def changeCoefficients (b : Body) (batch : List (Nat × Nat × Float)) : Option Body :=
  batch.foldlM (fun b (row, column, value) =>
    if column < b.columns.length then
      modifyRow b row fun r => { r with entries := setEntry column value r.entries }
    else none) b

def apply (b : Body) : Edit → Option Body
  | .addColumns columns => some { b with columns := b.columns ++ columns }
  | .addColumn column memberships => addColumn b column memberships
  | .addRow row =>
    if row.entries.all fun t => t.1 < b.columns.length then
      some { b with rows := b.rows ++ [row] }
    else none
  | .setObjective terms constant sense => setObjective b terms constant sense
  | .changeCoefficients batch => changeCoefficients b batch
  | .setRhs row value => modifyRow b row fun r => { r with rhs := value }
  | .setObjectiveCoefficient column value =>
    modifyColumn b column fun c => { c with objective := value }
  | .setDomain column domain => modifyColumn b column fun c => { c with domain }
  | .setColumnName column name => modifyColumn b column fun c => { c with name := some name }
  | .setRowName row name => modifyRow b row fun r => { r with name := some name }

def applyAll (b : Body) (edits : List Edit) : Option Body := edits.foldlM apply b

variable {b : Body} {e : Edit} {edits : List Edit} {i : Nat}

theorem modifyColumn_eq (within : i < b.columns.length) (f : MatrixColumn → MatrixColumn) :
    modifyColumn b i f = some (b.modifyColumn i f) := if_pos within

theorem modifyRow_eq (within : i < b.rows.length) (f : MatrixRow → MatrixRow) :
    modifyRow b i f = some (b.modifyRow i f) := if_pos within

theorem addColumn_eq {memberships : List (Nat × Float)} (column : MatrixColumn)
    (within : ∀ t ∈ memberships, t.1 < b.rows.length) :
    addColumn b column memberships = some (b.addColumn column memberships) := by
  refine foldlM_eq (P := fun c => c.rows.length = b.rows.length) rfl ?_
  intro c same t listed
  rw [← same] at within
  exact ⟨modifyRow_eq (within t listed) _, (Body.length_rows_modifyRow ..).trans same⟩

theorem addToObjective_eq {terms : List (Nat × Float)}
    (within : ∀ t ∈ terms, t.1 < b.columns.length) :
    addToObjective b terms = some (b.addToObjective terms) := by
  refine foldlM_eq (P := fun c => c.columns.length = b.columns.length) rfl ?_
  intro c same t listed
  rw [← same] at within
  exact ⟨modifyColumn_eq (within t listed) _, (List.length_modify ..).trans same⟩

theorem setObjective_eq {terms : List (Nat × Float)} (constant : Float) (sense : Sense)
    (within : ∀ t ∈ terms, t.1 < b.columns.length) :
    setObjective b terms constant sense = some (b.setObjective terms constant sense) := by
  have cleared : ∀ t ∈ terms,
      t.1 < (b.columns.map fun c => { c with objective := (0 : Float) }).length := by
    simpa using within
  unfold setObjective
  dsimp only
  rw [addToObjective_eq cleared]
  rfl

theorem changeCoefficients_eq {batch : List (Nat × Nat × Float)}
    (within : ∀ t ∈ batch, t.1 < b.rows.length ∧ t.2.1 < b.columns.length) :
    changeCoefficients b batch = some (b.changeCoefficients batch) := by
  refine foldlM_eq (P := fun c => c.columns = b.columns ∧ c.rows.length = b.rows.length)
    ⟨rfl, rfl⟩ ?_
  rintro c ⟨columns, rows⟩ t listed
  obtain ⟨row, column⟩ := within t listed
  rw [← rows] at row
  rw [← columns] at column
  refine ⟨?_, columns, (Body.length_rows_modifyRow ..).trans rows⟩
  exact (if_pos column).trans (modifyRow_eq row _)

theorem apply_eq (within : e.Within b.columns.length b.rows.length) :
    apply b e = some (b.apply e) := by
  cases e with
  | addColumns columns => rfl
  | addColumn column memberships => exact addColumn_eq column within
  | addRow row =>
    refine if_pos (List.all_eq_true.2 fun t listed => ?_)
    exact decide_eq_true (within t listed)
  | setObjective terms constant sense => exact setObjective_eq constant sense within
  | changeCoefficients batch => exact changeCoefficients_eq within
  | setRhs row value => exact modifyRow_eq within _
  | setObjectiveCoefficient column value => exact modifyColumn_eq within _
  | setDomain column domain => exact modifyColumn_eq within _
  | setColumnName column name => exact modifyColumn_eq within _
  | setRowName row name => exact modifyRow_eq within _

theorem applyAll_eq (admits : b.Admits edits) : applyAll b edits = some (b.applyAll edits) := by
  induction edits generalizing b with
  | nil => rfl
  | cons e rest ih =>
    obtain ⟨within, others⟩ := admits
    unfold applyAll
    rw [List.foldlM_cons, apply_eq within]
    exact ih others

end Edits

section Writing

/-- Terms under the names of columns that have to exist. -/
def named (p : Problem) (terms : List (Nat × Float)) : Option (List (String × Float)) :=
  terms.mapM fun (index, c) => p.columns[index]?.map fun column => (column.name, c)

def termsText (p : Problem) (terms : List (Nat × Float)) : Option String := do
  let terms ← named p terms
  return Lp.writeTerms terms (p.columns.head?.map (·.name))

def rowText (p : Problem) (row : ProblemRow) : Option String := do
  let terms ← termsText p row.terms
  return "  " ++ row.name ++ ": " ++ terms ++ " " ++ row.relation.symbol ++ " " ++
    Number.write row.rhs ++ "\n"

def text (p : Problem) : Option String := do
  let objective ← termsText p p.objective
  let rows ← p.rows.mapM (rowText p)
  return "\\ " ++ p.name ++ "\n\n" ++
    ((match p.sense with
      | .minimize => "Minimize\n  obj: "
      | .maximize => "Maximize\n  obj: ") ++ objective ++ "\n") ++
    (if p.rows.isEmpty then "" else "\nSubject To\n" ++ String.join rows) ++ p.boundsText ++
    p.domainText "Generals" .integer ++ p.domainText "Binaries" .binary ++ "\nEnd\n"

variable {p : Problem} {terms : List (Nat × Float)}

theorem termsText_eq (within : ∀ t ∈ terms, t.1 < p.columns.length) :
    termsText p terms = some (p.termsText terms) := by
  have names : named p terms = some (p.named terms) := by
    refine mapM_eq fun (index, c) listed => ?_
    have present := List.getElem?_eq_getElem (within (index, c) listed)
    dsimp only at present ⊢
    unfold Problem.columnName
    rw [present]
    rfl
  unfold termsText
  rw [names]
  rfl

theorem rowText_eq {row : ProblemRow} (within : ∀ t ∈ row.terms, t.1 < p.columns.length) :
    rowText p row = some (p.rowText row) := by
  unfold rowText
  rw [termsText_eq within]
  rfl

theorem text_eq (objective : ∀ t ∈ p.objective, t.1 < p.columns.length)
    (rows : ∀ r ∈ p.rows, ∀ t ∈ r.terms, t.1 < p.columns.length) : text p = some p.text := by
  unfold text
  rw [termsText_eq objective, mapM_eq fun r listed => rowText_eq (rows r listed)]
  rfl

/-- The problem of a body refers to its own columns only. -/
theorem text_problem {b : Body} (linked : b.Linked) (name : String) :
    text (b.problem name) = some (b.problem name).text := by
  have count := b.length_columns_problem name
  apply text_eq
  · intro t listed
    obtain ⟨c, present, -⟩ := Body.mem_objectiveTerms listed
    rw [count]
    exact (List.getElem?_eq_some_iff.1 present).1
  · intro r listed t inside
    obtain ⟨row, present, _, -, rfl⟩ := Body.mem_zipWith listed
    rw [count]
    exact linked.within row present t inside

end Writing

section Solutions

/-- The activity of a row whose columns have to have values. -/
def activity (entries : List (Nat × Float)) (values : List Float) : Option Float := do
  let products ← entries.mapM fun (column, a) => values[column]?.map fun x => a * x
  return Number.sum products

def values (b : Body) (s : Solution) : Option Values := do
  let names := b.viewNames
  let columns := names.columns.map s.results.getD
  let slacks ← b.rows.mapM fun r => do
    let activity ← activity r.entries columns
    return r.rhs - activity
  return { b.values s with columns, slacks }

variable {b : Body} {entries : List (Nat × Float)} {xs : List Float}

theorem activity_eq (within : ∀ t ∈ entries, t.1 < xs.length) :
    activity entries xs = some (Body.activity entries xs) := by
  have products : (entries.mapM fun t => xs[t.1]?.map fun x => t.2 * x) =
      some (entries.map fun t => t.2 * xs.getD t.1 0) := by
    refine mapM_eq fun t listed => ?_
    rw [List.getElem?_eq_getElem (within t listed), List.getD_eq_getElem _ _ (within t listed)]
    rfl
  unfold activity
  rw [products]
  rfl

theorem values_eq (linked : b.Linked) (s : Solution) : values b s = some (b.values s) := by
  have count : (b.viewNames.columns.map s.results.getD).length = b.columns.length := by
    rw [List.length_map, Body.length_viewColumns]
  have slacks : ∀ r ∈ b.rows, (do
      let activity ← activity r.entries (b.viewNames.columns.map s.results.getD)
      return r.rhs - activity : Option Float) =
        some (r.rhs - Body.activity r.entries (b.viewNames.columns.map s.results.getD)) := by
    intro r listed
    rw [activity_eq (count ▸ linked.within r listed)]
    rfl
  unfold values
  dsimp only
  rw [mapM_eq slacks]
  rfl

end Solutions

section Attributes

/-- Picks values by position; each position below the count has to have a value. -/
def pick (axis : Axis) (count : Nat) (values : List Float) :
    List Nat → Option (Except MatrixError (List Float))
  | [] => some (.ok [])
  | i :: rest =>
    if i < count then do
      let x ← values[i]?
      let more ← pick axis count values rest
      return more.map (x :: ·)
    else some (.error (.indexOutOfRange axis i count))

def columnAttribute (m : Matrix) (what : ColumnAttribute) (columns : List Nat) :
    Option (Except MatrixError (List Float)) :=
  match m.columnAttribute? what with
  | some values => pick .column m.body.columns.length values columns
  | none => some (.error (.unavailable what.label))

def rowAttribute (m : Matrix) (what : RowAttribute) (rows : List Nat) :
    Option (Except MatrixError (List Float)) :=
  match m.rowAttribute? what with
  | some values => pick .row m.body.rows.length values rows
  | none => some (.error (.unavailable what.label))

theorem pick_eq {values : List Float} {count : Nat} (length : values.length = count) (axis : Axis)
    (indices : List Nat) :
    pick axis count values indices = some (Matrix.pick axis count values indices) := by
  induction indices with
  | nil => rfl
  | cons i rest ih =>
    unfold Matrix.pick at ih ⊢
    rw [pick, List.mapM_cons]
    by_cases within : i < count
    · have present : i < values.length := length ▸ within
      rw [if_pos within, if_pos within, ih, List.getElem?_eq_getElem present,
        List.getD_eq_getElem _ _ present]
      generalize rest.mapM (m := Except MatrixError) _ = others
      cases others <;> rfl
    · rw [if_neg within, if_neg within]
      rfl

end Attributes

end Checked

end LinProg
