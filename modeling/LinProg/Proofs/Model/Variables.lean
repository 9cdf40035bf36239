import Mathlib
import LinProg.Model.Variables
import LinProg.Proofs.Model.Operation

/-!
# What operations on variables do

Every variable that is added brings a column and a handle; a change to one is made in both.
-/

namespace LinProg.Model
open Operation

variable {m n : Model} {lower upper : Float} {domain : Domain} {name : Option String}
  {v after : Variable} {u : Unit}

theorem keeps_checkLengths (check : Except LengthMismatch Unit) : Keeps (checkLengths check) := by
  intro m
  cases check <;> rfl

theorem checkLengths_ok_iff {check : Except LengthMismatch Unit} :
    checkLengths check m = .ok u n ↔ m = n ∧ check = .ok ⟨⟩ := by
  cases check with
  | ok => refine pure_ok_iff.trans ⟨fun h => ⟨h.2, rfl⟩, fun h => ⟨rfl, h.1⟩⟩
  | error cause => exact iff_of_false (fun h => nomatch h) fun h => nomatch h.2

def columnNames (count : Nat) (names : Option (List String)) : List (Option String) :=
  match names with
  | some names => names.map some
  | none => List.replicate count none

theorem addVariables_ok {lowers uppers : List Float} {domains : Option (List Domain)}
    {names : Option (List String)} {added : List Variable}
    (h : addVariables lowers uppers domains names m = .ok added n) :
    lowers.length = uppers.length ∧
      added = handlesOf m.id m.matrix.columnCount (Matrix.columnsOf lowers uppers none domains
        (some (columnNames lowers.length names))) ∧
      n = Model.synced { m.edited (.addColumns (Matrix.columnsOf lowers uppers none domains
        (some (columnNames lowers.length names)))) lowers.length 0 with
          handles := m.handles ++ added } := by
  unfold addVariables at h
  simp only [bind_ok_iff, checkLengths_ok_iff, onMatrix_ok_iff (Matrix.queues_addColumns ..),
    get_ok_iff, set_ok_iff, sync_ok_iff, pure_ok_iff] at h
  obtain ⟨_, _, ⟨rfl, lengths⟩, _, _, ⟨rfl, -⟩, _, _, ⟨rfl, -⟩, _, _, ⟨-, rfl, rfl⟩, _, _,
    ⟨rfl, rfl⟩, _, _, rfl, _, _, rfl, rfl, rfl⟩ := h
  exact ⟨Matrix.length_eq_of_check lengths, rfl, rfl⟩

theorem harmless_addVariables (lowers uppers : List Float) (domains : Option (List Domain))
    (names : Option (List String)) : Harmless (addVariables lowers uppers domains names) := by
  refine (keeps_checkLengths _).bind_harmless fun _ => ?_
  refine (keeps_checkLengths _).bind_harmless fun _ => ?_
  refine (keeps_checkLengths _).bind_harmless fun _ => ?_
  refine (harmless_onMatrix (Matrix.queues_addColumns ..).harmless).bind_succeeds fun _ => ?_
  exact .bind .get fun _ => .bind (.set _) fun _ => .bind succeeds_sync fun _ => .pure _

theorem addVariable_ok (h : addVariable lower upper domain name m = .ok v n) :
    v = ⟨⟨m.id, m.matrix.columnCount⟩, lower, upper, domain, name⟩ ∧
      n = Model.synced { m.edited (.addColumns [⟨lower, upper, 0, domain, name⟩]) 1 0 with
        handles := m.handles ++ [v] } := by
  have column : Matrix.columnsOf [lower] [upper] none (some [domain])
      (some (columnNames 1 (name.map ([·])))) = [⟨lower, upper, 0, domain, name⟩] := by
    cases name <;> rfl
  unfold addVariable at h
  obtain ⟨added, _, first, h⟩ := bind_ok_iff.1 h
  obtain ⟨-, rfl, rfl⟩ := addVariables_ok first
  dsimp only [List.length_cons, List.length_nil, Nat.zero_add] at h
  rw [column] at h
  obtain ⟨rfl, rfl⟩ := pure_ok_iff.1 h
  exact ⟨rfl, rfl⟩

theorem harmless_addVariable (lower upper : Float) (domain : Domain) (name : Option String) :
    Harmless (addVariable lower upper domain name) := by
  intro s e t h
  unfold addVariable at h
  rcases bind_error_iff.1 h with failed | ⟨added, _, first, h⟩
  · exact (harmless_addVariables _ _ _ _).of_error failed
  -- one pair of bounds gives one variable
  obtain ⟨-, rfl, rfl⟩ := addVariables_ok first
  cases h

theorem columnObjective_ok_iff {column : Column} {c : Float} :
    columnObjective column m = .ok c n ↔
      m = n ∧ c = (column.objective.map (·.coefficient)).getD 0 ∧
        ∀ part ∈ column.objective, m.ownsObjective part.model part.generation = true := by
  unfold columnObjective
  cases column.objective with
  | none =>
    refine pure_ok_iff.trans ⟨?_, ?_⟩
    · rintro ⟨rfl, rfl⟩
      exact ⟨rfl, rfl, nofun⟩
    · rintro ⟨rfl, rfl, -⟩
      exact ⟨rfl, rfl⟩
  | some part =>
    simp only [bind_ok_iff, checkObjective_ok_iff, pure_ok_iff]
    constructor
    · rintro ⟨_, _, ⟨rfl, owned⟩, rfl, rfl⟩
      exact ⟨rfl, rfl, fun _ same => by cases same; exact owned⟩
    · rintro ⟨rfl, rfl, owned⟩
      exact ⟨⟨⟩, _, ⟨rfl, owned part rfl⟩, rfl, rfl⟩

theorem keeps_columnObjective (column : Column) : Keeps (columnObjective column) := by
  unfold columnObjective
  cases column.objective with
  | none => exact .pure _
  | some part => exact (keeps_checkObjective _ _).bind fun _ => .pure _

/-- The rows that a column names, by position. -/
def membershipsOf (column : Column) : List (Nat × Float) :=
  column.rows.toList.map fun t => (t.1.index, t.2)

theorem keeps_memberships (column : Column) :
    Keeps (column.rows.toList.mapM fun t => (do return (← checkRow t.1, t.2) :
      ModelM (Nat × Float))) :=
  .mapM (fun _ => .bind (keeps_checkRow _) fun _ => .pure _) _

theorem memberships_ok_iff {column : Column} {memberships : List (Nat × Float)} :
    (column.rows.toList.mapM fun t => (do return (← checkRow t.1, t.2) :
        ModelM (Nat × Float))) m = .ok memberships n ↔
      m = n ∧ memberships = membershipsOf column ∧
        ∀ t ∈ column.rows.toList, m.ownsRow t.1 = true := by
  have one (t : Ref × Float) (s : Model) (b : Nat × Float) (s' : Model) :
      (do return (← checkRow t.1, t.2) : ModelM (Nat × Float)) s = .ok b s' ↔
        s = s' ∧ b = (t.1.index, t.2) ∧ s.ownsRow t.1 = true := by
    simp only [bind_ok_iff, checkRow_ok_iff, pure_ok_iff]
    constructor
    · rintro ⟨_, _, ⟨rfl, rfl, owned⟩, rfl, rfl⟩
      exact ⟨rfl, rfl, owned⟩
    · rintro ⟨rfl, rfl, owned⟩
      exact ⟨_, _, ⟨rfl, rfl, owned⟩, rfl, rfl⟩
  refine (mapM_ok_iff (r := fun t : Ref × Float => (t.1.index, t.2))
    (fun t => .bind (keeps_checkRow _) fun _ => .pure _)
    (fun h => ((one _ _ _ _).1 h).2.1)).trans ?_
  simp only [one, true_and]
  rfl

theorem addWithColumn_ok {column : Column}
    (h : addWithColumn column lower upper domain name m = .ok v n) :
    (∀ part ∈ column.objective, m.ownsObjective part.model part.generation = true) ∧
      (∀ t ∈ column.rows.toList, m.ownsRow t.1 = true) ∧
      v = ⟨⟨m.id, m.matrix.columnCount⟩, lower, upper, domain, name⟩ ∧
      n = Model.synced { m.edited (.addColumn ⟨lower, upper,
        (column.objective.map (·.coefficient)).getD 0, domain, name⟩ (membershipsOf column)) 1 0 with
          handles := m.handles ++ [v] } := by
  unfold addWithColumn at h
  obtain ⟨_, _, objective, h⟩ := bind_ok_iff.1 h
  obtain ⟨rfl, rfl, current⟩ := columnObjective_ok_iff.1 objective
  obtain ⟨_, _, rows, h⟩ := bind_ok_iff.1 h
  obtain ⟨rfl, rfl, owned⟩ := memberships_ok_iff.1 rows
  simp only [bind_ok_iff, onMatrix_ok_iff (Matrix.queues_addColumn ..), get_ok_iff, set_ok_iff,
    sync_ok_iff, pure_ok_iff] at h
  obtain ⟨_, _, ⟨-, rfl, rfl⟩, _, _, ⟨rfl, rfl⟩, _, _, rfl, _, _, rfl, rfl, rfl⟩ := h
  exact ⟨current, owned, rfl, rfl⟩

theorem harmless_addWithColumn (column : Column) (lower upper : Float) (domain : Domain)
    (name : Option String) : Harmless (addWithColumn column lower upper domain name) := by
  refine (keeps_columnObjective column).bind_harmless fun _ => ?_
  refine (keeps_memberships column).bind_harmless fun _ => ?_
  refine (harmless_onMatrix (Matrix.queues_addColumn ..).harmless).bind_succeeds fun _ => ?_
  exact .bind .get fun _ => .bind (.set _) fun _ => .bind succeeds_sync fun _ => .pure _

theorem convertDomain_ok (h : convertDomain v domain m = .ok after n) :
    m.ownsColumn v.ref = true ∧ domain.acceptsBounds v.lower v.upper = true ∧
      after = { v with domain } ∧
      n = Model.synced { m.edited (.setDomain v.ref.index domain) 0 0 with
        handles := m.handles.modify v.ref.index fun listed => { listed with domain } } := by
  unfold convertDomain at h
  obtain ⟨_, _, checked, h⟩ := bind_ok_iff.1 h
  obtain ⟨rfl, rfl, owned⟩ := checkVariable_ok_iff.1 checked
  split at h
  · rename_i accepted
    simp only [bind_ok_iff, onMatrix_ok_iff (Matrix.queues_setDomain ..), modifyListed,
      modify_ok_iff, sync_ok_iff, pure_ok_iff] at h
    obtain ⟨_, _, ⟨-, -, rfl⟩, _, _, rfl, _, _, rfl, rfl, rfl⟩ := h
    exact ⟨owned, accepted, rfl, rfl⟩
  · cases h

theorem harmless_convertDomain (v : Variable) (domain : Domain) :
    Harmless (convertDomain v domain) := by
  refine (keeps_checkVariable _).bind_harmless fun _ => ?_
  dsimp only
  split
  · refine (harmless_onMatrix (Matrix.queues_setDomain ..).harmless).bind_succeeds fun _ => ?_
    exact .bind (.modify _) fun _ => .bind succeeds_sync fun _ => .pure _
  · exact (Keeps.throw_bind _ _).harmless

theorem setVariableName_ok {newName : String} (h : setVariableName v newName m = .ok after n) :
    m.ownsColumn v.ref = true ∧ after = { v with name := some newName } ∧
      n = Model.synced { m.edited (.setColumnName v.ref.index newName) 0 0 with
        handles := m.handles.modify v.ref.index fun listed =>
          { listed with name := some newName } } := by
  unfold setVariableName at h
  simp only [bind_ok_iff, checkVariable_ok_iff, onMatrix_ok_iff (Matrix.queues_setColumnName ..),
    modifyListed, modify_ok_iff, sync_ok_iff, pure_ok_iff] at h
  obtain ⟨_, _, ⟨rfl, rfl, owned⟩, _, _, ⟨-, -, rfl⟩, _, _, rfl, _, _, rfl, rfl, rfl⟩ := h
  exact ⟨owned, rfl, rfl⟩

theorem harmless_setVariableName (v : Variable) (name : String) :
    Harmless (setVariableName v name) := by
  refine (keeps_checkVariable _).bind_harmless fun _ => ?_
  refine (harmless_onMatrix (Matrix.queues_setColumnName ..).harmless).bind_succeeds fun _ => ?_
  exact .bind (.modify _) fun _ => .bind succeeds_sync fun _ => .pure _

/-! ### Looking at a model -/

theorem keeps_objectiveColumn (objective : Objective) (c : Float) :
    Keeps (objectiveColumn objective c) :=
  (keeps_checkObjective _ _).bind fun _ => Keeps.get.bind fun _ => .pure _

theorem keeps_rowColumn (row : Ref) (c : Float) : Keeps (rowColumn row c) :=
  (keeps_checkRow row).bind fun _ => .pure _

theorem keeps_variableBounds (v : Variable) : Keeps (variableBounds v) := by
  refine (keeps_checkVariable _).bind fun _ => Keeps.get.bind fun _ => ?_
  exact (keeps_lookUp _).bind fun _ => (keeps_lookUp _).bind fun _ => .pure _

theorem keeps_variableDomain (v : Variable) : Keeps (variableDomain v) := by
  refine (keeps_checkVariable _).bind fun _ => Keeps.get.bind fun m => ?_
  split
  · exact .pure _
  · exact .throw _

end LinProg.Model
