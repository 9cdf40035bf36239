import Mathlib
import LinProg.Proofs.Column
import LinProg.Proofs.Session.InstalledObjective
import LinProg.Proofs.Session.RangeRow

/-!
# Variables that come with a column

A variable can be added together with a composed column.  This fails, and changes nothing, if a row that
the column names or its last objective part is not of the live model.  Otherwise there is one more column
after a flush, and one more entry in each named row: `variable_with_column`.
-/

namespace LinProg
open Operation

namespace Model

variable {m n : Model} {column : Column}

def HasRow (m : Model) (ref : Ref) : Prop :=
  ref.model = m.id ∧ ref.index < m.matrix.flush.body.rows.length

def HasObjective (m : Model) (part : ObjectivePart) : Prop :=
  part.model = m.id ∧ part.generation = m.generation

instance (m : Model) (ref : Ref) : Decidable (m.HasRow ref) :=
  inferInstanceAs (Decidable (_ ∧ _))

instance (m : Model) (part : ObjectivePart) : Decidable (m.HasObjective part) :=
  inferInstanceAs (Decidable (_ ∧ _))

theorem hasRow_iff (sound : m.matrix.Sound) {ref : Ref} : m.HasRow ref ↔ m.ownsRow ref = true := by
  have count : m.matrix.flush.body.rows.length = m.matrix.rowCount := sound.rowCount
  unfold HasRow ownsRow
  rw [count]
  simp

theorem hasObjective_iff {part : ObjectivePart} :
    m.HasObjective part ↔ m.ownsObjective part.model part.generation = true :=
  ownsObjective_iff.symm

/-- Nothing but a reference can be wrong with a column. -/
theorem addWithColumn_succeeds
    (current : ∀ part ∈ column.objective, m.ownsObjective part.model part.generation = true)
    (owned : ∀ t ∈ column.rows.toList, m.ownsRow t.1 = true) (lower upper : Float)
    (domain : Domain) (name : Option String) :
    ∃ v n, addWithColumn column lower upper domain name m = .ok v n := by
  have within : ∀ t ∈ membershipsOf column, t.1 < m.matrix.rowCount := by
    intro t member
    obtain ⟨u, listed, rfl⟩ := List.mem_map.1 member
    exact row_within (owned u listed)
  refine ⟨⟨⟨m.id, m.matrix.columnCount⟩, lower, upper, domain, name⟩,
    Model.synced { m.edited (.addColumn ⟨lower, upper,
      (column.objective.map (·.coefficient)).getD 0, domain, name⟩ (membershipsOf column)) 1 0 with
        handles := m.handles ++ [⟨⟨m.id, m.matrix.columnCount⟩, lower, upper, domain, name⟩] }, ?_⟩
  unfold addWithColumn
  refine bind_ok_iff.2 ⟨_, m, columnObjective_ok_iff.2 ⟨rfl, rfl, current⟩, ?_⟩
  refine bind_ok_iff.2 ⟨_, m, memberships_ok_iff.2 ⟨rfl, rfl, owned⟩, ?_⟩
  exact bind_ok_iff.2 ⟨_, _, (onMatrix_ok_iff (Matrix.queues_addColumn ..)).2 ⟨within, rfl, rfl⟩,
    rfl⟩

/-- A wrong reference is one that the model does not accept. -/
theorem exists_refused_iff :
    (∃ h, (columnReferences column).find? (fun k => !m.accepts k) = some h) ↔
      ¬((∀ part ∈ column.objective, m.ownsObjective part.model part.generation = true) ∧
        ∀ t ∈ column.rows.toList, m.ownsRow t.1 = true) := by
  have accepted : (∀ k ∈ columnReferences column, m.accepts k = true) ↔
      (∀ part ∈ column.objective, m.ownsObjective part.model part.generation = true) ∧
        ∀ t ∈ column.rows.toList, m.ownsRow t.1 = true := by
    unfold columnReferences
    rw [List.forall_mem_append, List.forall_mem_map, List.forall_mem_map]
    simp [accepts]
  rw [← accepted, ← Option.isSome_iff_exists, List.find?_isSome]
  simp

end Model

namespace Composition
open Model (HasRow HasObjective)

variable {m : Model} {c : Composition}

/-- What a composition refers to is there. -/
structure Fits (c : Composition) (m : Model) : Prop where
  rows : ∀ ref ∈ c.named, m.HasRow ref
  objective : ∀ part ∈ c.objectives.getLast?, m.HasObjective part

theorem fits_iff (sound : m.matrix.Sound) : c.Fits m ↔
    (∀ part ∈ c.column.objective, m.ownsObjective part.model part.generation = true) ∧
      ∀ t ∈ c.column.rows.toList, m.ownsRow t.1 = true := by
  constructor
  · rintro ⟨rows, objective⟩
    rw [objective_column]
    refine ⟨fun part last => Model.hasObjective_iff.1 (objective part last), fun t listed => ?_⟩
    exact (Model.hasRow_iff sound).1 (rows t.1 (mem_rows_column.1 ⟨t.2, listed⟩))
  · rintro ⟨current, owned⟩
    rw [objective_column] at current
    refine ⟨fun ref part => ?_, fun part last => Model.hasObjective_iff.2 (current part last)⟩
    obtain ⟨x, listed⟩ := mem_rows_column.2 part
    exact (Model.hasRow_iff sound).2 (owned (ref, x) listed)

/-- The coefficient in the objective: that of the last part. -/
def objectiveCoefficient (c : Composition) : Float :=
  (c.objectives.getLast?.map (·.coefficient)).getD 0

/-- The row with the entry that a new column gives it. -/
def extendRow (c : Composition) (model index column : Nat) (row : MatrixRow) : MatrixRow :=
  if ⟨model, index⟩ ∈ c.named then row.push column (c.total ⟨model, index⟩) else row

/-- Each row gets the entry of its own parts. -/
theorem getElem?_rows_addColumn (owned : ∀ t ∈ c.column.rows.toList, m.ownsRow t.1 = true)
    (b : Body) (column : MatrixColumn) (i : Nat) :
    (b.addColumn column (Model.membershipsOf c.column)).rows[i]? =
      b.rows[i]?.map (c.extendRow m.id i b.columns.length) := by
  rw [Body.getElem?_addColumn, Model.valuesAt_membershipsOf owned, get?_column]
  refine congrArg (b.rows[i]?.map ·) (funext fun row => ?_)
  unfold extendRow
  split
  · rfl
  · exact congrArg (fun entries => { row with entries }) (List.append_nil _)

end Composition

namespace Session

section Run

variable {s : Session} {c : Composition}

theorem run_addWithColumn_of_fits (sound : s.model.matrix.Sound) (fits : c.Fits s.model)
    (lower upper : Float) (domain : Domain) (label : Option String) :
    ∃ t, (Call.request (.addWithColumn c.column lower upper domain label)).run s =
        (.handle ⟨⟨s.model.id, s.model.matrix.flush.body.columns.length⟩, lower, upper, domain,
          label⟩, t) ∧
      t.model.matrix.flush.body = s.model.matrix.flush.body.addColumn
        ⟨lower, upper, c.objectiveCoefficient, domain, label⟩ (Model.membershipsOf c.column) := by
  have count : s.model.matrix.flush.body.columns.length = s.model.matrix.columnCount :=
    sound.columnCount
  obtain ⟨current, owned⟩ := (Composition.fits_iff sound).1 fits
  obtain ⟨v, n, added⟩ := Model.addWithColumn_succeeds current owned lower upper domain label
  have result : (Request.addWithColumn c.column lower upper domain label).carryOut s.model =
      .ok (.handle v) n := bind_ok_iff.2 ⟨_, _, added, rfl⟩
  obtain ⟨-, -, rfl, rfl⟩ := Model.addWithColumn_ok added
  refine ⟨_, (Call.run_ok result).trans (by rw [count]), ?_⟩
  show (Model.synced _).matrix.flush.body = _
  rw [Model.flush_synced, Composition.objective_column]
  exact Matrix.body_flush_extended s.model.matrix (.addColumn _ _)

theorem run_addWithColumn_of_not_fits (sound : s.model.matrix.Sound) (unfit : ¬c.Fits s.model)
    (lower upper : Float) (domain : Domain) (label : Option String) :
    ∃ kind index, (Call.request (.addWithColumn c.column lower upper domain label)).run s =
      (.failed (.invalidReference kind index), s) := by
  rw [Composition.fits_iff sound] at unfit
  obtain ⟨h, first⟩ := Model.exists_refused_iff.2 unfit
  exact ⟨h.kind, h.index, Call.run_error (Request.refuses_carryOut _ s.model h first)⟩

end Run

/-- Adding a variable with a column fails exactly on a wrong reference, and changes nothing then.
Otherwise a flush gives the new column last, an entry in each named row, and no other change. -/
theorem variable_with_column (w : Workspace) (name : String) (env : Environment)
    (calls : List Call) (c : Composition) (lower upper : Float) (domain : Domain)
    (label : Option String) :
    let s := (create w name env).after calls
    let before := s.model.matrix.flush.body
    let call := Call.request (.addWithColumn c.column lower upper domain label)
    ((∃ kind index, call.run s = (.failed (.invalidReference kind index), s)) ↔
        (∃ ref ∈ c.named, ¬s.model.HasRow ref) ∨
          ∃ part ∈ c.objectives.getLast?, ¬s.model.HasObjective part) ∧
      ((∀ ref ∈ c.named, s.model.HasRow ref) →
        (∀ part ∈ c.objectives.getLast?, s.model.HasObjective part) →
        ∃ t, call.run s = (.handle ⟨⟨s.model.id, before.columns.length⟩, lower, upper, domain,
            label⟩, t) ∧
          let after := t.model.matrix.flush.body
          after.columns =
              before.columns ++ [⟨lower, upper, c.objectiveCoefficient, domain, label⟩] ∧
            after.rows = before.rows.mapIdx (fun i row =>
              c.extendRow s.model.id i before.columns.length row) ∧
            after.sense = before.sense ∧ after.constant = before.constant) := by
  intro s before call
  have sound : s.model.matrix.Sound := (sound_after calls (sound_create w name env)).matrix
  refine ⟨⟨?_, fun wrong => ?_⟩, fun rows objective => ?_⟩
  · rintro ⟨kind, index, failed⟩
    by_contra all
    rw [not_or] at all
    push Not at all
    obtain ⟨t, done, -⟩ := run_addWithColumn_of_fits sound ⟨all.1, all.2⟩ lower upper domain label
    rw [failed] at done
    cases done
  · refine run_addWithColumn_of_not_fits sound ?_ lower upper domain label
    rintro ⟨rows, objective⟩
    rcases wrong with ⟨ref, named, missing⟩ | ⟨part, last, stale⟩
    · exact missing (rows ref named)
    · exact stale (objective part last)
  · have fits : c.Fits s.model := ⟨rows, objective⟩
    obtain ⟨t, done, body⟩ := run_addWithColumn_of_fits sound fits lower upper domain label
    obtain ⟨sense, constant⟩ := before.sense_addColumn
      ⟨lower, upper, c.objectiveCoefficient, domain, label⟩ (Model.membershipsOf c.column)
    refine ⟨t, done, ?_⟩
    intro after
    have same : after = before.addColumn _ _ := body
    rw [same]
    refine ⟨Body.columns_addColumn .., ?_, sense, constant⟩
    apply List.ext_getElem?
    intro i
    rw [Composition.getElem?_rows_addColumn ((Composition.fits_iff sound).1 fits).2,
      List.getElem?_mapIdx]

/-- With lazy updates, two rows wait, and the first of two objectives is stale. -/
def waitingRows : List Call :=
  let x : Variable := ⟨⟨0, 0⟩, 0, 4, .continuous, some "x"⟩
  [.request (.setInt .updateMode 0), .request (.addVariable 0 4 .continuous (some "x")),
    .request (.addRange 1 (.ofVariable x) 3 (some "r")),
    .request (.addRelation (.ofVariable x) .le (.ofConstant 9) none),
    .request (.addObjective (.term x 2) .maximize), .request (.addObjective (.term x 3) .minimize)]

def stalePart : Composition := .objective ⟨0, 1, 9⟩

/-- The stale part is overridden, and the first row has two parts. -/
def nestedParts : Composition :=
  .and (.and stalePart (.row ⟨0, 0⟩ 1.5))
    (.and (.objective ⟨0, 2, 4⟩) (.and (.row ⟨0, 1⟩ 2) (.row ⟨0, 0⟩ 0.5)))

theorem variable_with_column_nested :
    let s := (create .empty "test" ⟨.none, .default⟩).after waitingRows
    let add (c : Composition) := Call.request (.addWithColumn c.column 0 1 .continuous none)
    (∀ ref ∈ nestedParts.named, s.model.HasRow ref) ∧
      (∀ part ∈ nestedParts.objectives.getLast?, s.model.HasObjective part) ∧
      (∃ t, (add nestedParts).run s = (.handle ⟨⟨0, 2⟩, 0, 1, .continuous, none⟩, t) ∧
        t.model.matrix.flush.body.columns.map (·.objective) = [3, 0, 4] ∧
        t.model.matrix.flush.body.rows.map (·.entries) =
          [[(0, 1), (1, -1), (2, 2)], [(0, 1), (2, 2)]]) ∧
      ∃ kind index, (add (.and nestedParts stalePart)).run s =
        (.failed (.invalidReference kind index), s) := by
  intro s add
  have rows : ∀ ref ∈ nestedParts.named, s.model.HasRow ref := by decide +kernel
  have objective : ∀ part ∈ nestedParts.objectives.getLast?, s.model.HasObjective part := by
    rintro part last
    cases last
    decide +kernel
  have added : (⟨⟨s.model.id, s.model.matrix.flush.body.columns.length⟩, 0, 1, .continuous, none⟩ :
      Variable) = ⟨⟨0, 2⟩, 0, 1, .continuous, none⟩ := by decide +kernel
  obtain ⟨-, success⟩ := variable_with_column .empty "test" ⟨.none, .default⟩ waitingRows
    nestedParts 0 1 .continuous none
  obtain ⟨t, done, after, rest, -⟩ := success rows objective
  obtain ⟨refused, -⟩ := variable_with_column .empty "test" ⟨.none, .default⟩ waitingRows
    (.and nestedParts stalePart) 0 1 .continuous none
  subst s
  refine ⟨rows, objective, ⟨t, ?_, ?_, ?_⟩, refused.2 (.inr ⟨⟨0, 1, 9⟩, rfl, by decide +kernel⟩)⟩
  · exact done.trans (congrArg (fun v => (Answer.handle v, t)) added)
  · rw [after]
    decide +kernel
  · rw [rest]
    decide +kernel

end Session

end LinProg
