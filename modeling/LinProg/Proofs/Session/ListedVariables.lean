import Mathlib
import LinProg.Proofs.Matrix.Columns
import LinProg.Proofs.Session.Edits

/-!
# The list of variables

A model lists a variable for every column, with the bounds, the domain and the name that the column has
once the queued edits are carried out: `variables_mirror_columns`.  Domains and names change, and copies
of a variable go stale; bounds never change, so that those of any copy are the bounds of its column.
-/

namespace LinProg
open Operation

namespace Model

variable {m n : Model} {edits : List Edit} {v : Variable}

/-! ### Handles and columns -/

theorem getElem?_handlesOf (model start : Nat) (columns : List MatrixColumn) (i : Nat) :
    (handlesOf model start columns)[i]? = columns[i]?.map fun c =>
      ⟨⟨model, start + i⟩, c.lower, c.upper, c.domain, c.name⟩ := List.getElem?_mapIdx

theorem length_handlesOf (model start : Nat) (columns : List MatrixColumn) :
    (handlesOf model start columns).length = columns.length := List.length_mapIdx

theorem handlesOf_append (model : Nat) (columns added : List MatrixColumn) :
    handlesOf model 0 (columns ++ added) =
      handlesOf model 0 columns ++ handlesOf model columns.length added := by
  apply List.ext_getElem?
  intro i
  rw [getElem?_handlesOf, Nat.zero_add]
  rcases Nat.lt_or_ge i columns.length with old | new
  · rw [List.getElem?_append_left old, List.getElem?_append_left (by rwa [length_handlesOf]),
      getElem?_handlesOf, Nat.zero_add]
  · rw [List.getElem?_append_right new, List.getElem?_append_right (by rwa [length_handlesOf]),
      getElem?_handlesOf, length_handlesOf, Nat.add_sub_of_le new]

/-- Changing a column and changing the handle on it come to the same. -/
theorem handlesOf_modify (model : Nat) (columns : List MatrixColumn) (i : Nat)
    {f : MatrixColumn → MatrixColumn} {g : Variable → Variable}
    (alike : ∀ (ref : Ref) (c : MatrixColumn), g ⟨ref, c.lower, c.upper, c.domain, c.name⟩ =
      ⟨ref, (f c).lower, (f c).upper, (f c).domain, (f c).name⟩) :
    handlesOf model 0 (columns.modify i f) = (handlesOf model 0 columns).modify i g := by
  apply List.ext_getElem?
  intro j
  rw [getElem?_handlesOf, List.getElem?_modify, List.getElem?_modify, getElem?_handlesOf]
  cases columns[j]? with
  | none => rfl
  | some c => by_cases here : i = j <;> simp [here, alike]

/-- Handles do not tell objective coefficients. -/
theorem handlesOf_objectives (model : Nat) {columns others : List MatrixColumn}
    (objective : Nat → MatrixColumn → Float)
    (same : ∀ j, others[j]? = columns[j]?.map fun c : MatrixColumn =>
      { c with objective := objective j c }) :
    handlesOf model 0 others = handlesOf model 0 columns := by
  apply List.ext_getElem?
  intro j
  rw [getElem?_handlesOf, getElem?_handlesOf, same, Option.map_map]
  rfl

/-- An edit does to the handles what it does to the columns. -/
theorem relist_handlesOf (model : Nat) (b : Body) (e : Edit) :
    relist model (handlesOf model 0 b.columns) e = handlesOf model 0 (b.apply e).columns := by
  cases e with
  | addColumns columns =>
    refine Eq.trans ?_ (handlesOf_append model b.columns columns).symm
    rw [relist, length_handlesOf]
  | addColumn column memberships =>
    rw [Body.apply, Body.columns_addColumn, handlesOf_append, relist, length_handlesOf]
  | setObjective terms constant sense =>
    exact (handlesOf_objectives model _ (b.getElem?_setObjective terms constant sense)).symm
  | changeCoefficients batch =>
    rw [Body.apply, Body.columns_changeCoefficients]
    rfl
  | setObjectiveCoefficient column value =>
    refine (handlesOf_objectives model
      (fun j c => if column = j then value else c.objective) fun j => ?_).symm
    rw [Body.apply, Body.getElem?_modifyColumn]
    split
    · rfl
    · exact (Option.map_id' ..).symm
  | setDomain column domain => exact (handlesOf_modify model b.columns column fun _ _ => rfl).symm
  | setColumnName column name =>
    exact (handlesOf_modify model b.columns column fun _ _ => rfl).symm
  | addRow | setRhs | setRowName => rfl

theorem foldl_relist (model : Nat) (b : Body) (edits : List Edit) :
    edits.foldl (relist model) (handlesOf model 0 b.columns) =
      handlesOf model 0 (b.applyAll edits).columns := by
  induction edits generalizing b with
  | nil => rfl
  | cons e edits ih =>
    rw [List.foldl_cons, relist_handlesOf]
    exact ih (b.apply e)

/-! ### Models -/

/-- The listed variables are the handles on the columns as they are to be. -/
def Mirrors (m : Model) : Prop := m.handles = handlesOf m.id 0 m.matrix.flush.body.columns

theorem Mirrors.revises (mirrors : m.Mirrors) (revises : m.Revises edits n) : n.Mirrors := by
  unfold Mirrors at *
  rw [revises.handles, revises.id, revises.body, mirrors]
  exact foldl_relist m.id m.matrix.flush.body edits

theorem Mirrors.listed (mirrors : m.Mirrors) (sound : m.matrix.Sound) : m.Listed := by
  have count : m.matrix.flush.body.columns.length = m.matrix.columnCount := sound.columnCount
  unfold Listed
  rw [mirrors, refs_handlesOf, count]
  simp only [Nat.zero_add]

theorem Mirrors.getElem? (mirrors : m.Mirrors) (i : Nat) :
    m.handles[i]? = m.matrix.flush.body.columns[i]?.map fun c =>
      ⟨⟨m.id, i⟩, c.lower, c.upper, c.domain, c.name⟩ := by
  rw [mirrors, getElem?_handlesOf, Nat.zero_add]

/-- The variable has the bounds of the column that it is on. -/
def Fits (m : Model) (v : Variable) : Prop :=
  ∃ c, m.matrix.flush.body.columns[v.ref.index]? = some c ∧ c.lower = v.lower ∧ c.upper = v.upper

theorem Fits.revises (fits : m.Fits v) (revises : m.Revises edits n) : n.Fits v := by
  obtain ⟨c, present, lower, upper⟩ := fits
  obtain ⟨objective, domain, name, there⟩ := Body.getElem?_applyAll present edits
  unfold Fits
  rw [revises.body]
  exact ⟨_, there, lower, upper⟩

theorem Mirrors.fits (mirrors : m.Mirrors) (listed : v ∈ m.handles) : m.Fits v := by
  obtain ⟨i, there⟩ := List.mem_iff_getElem?.1 listed
  rw [mirrors.getElem?] at there
  obtain ⟨c, present, rfl⟩ := Option.map_eq_some_iff.1 there
  exact ⟨c, present, rfl, rfl⟩

/-- Whether a domain is accepted depends on the bounds that the variable has. -/
theorem convertDomain_accepts (owned : m.ownsColumn v.ref = true) (domain : Domain) :
    (∃ after n, convertDomain v domain m = .ok after n) ↔
      domain.acceptsBounds v.lower v.upper = true := by
  constructor
  · rintro ⟨after, n, done⟩
    exact (convertDomain_ok done).2.1
  · intro accepts
    refine ⟨{ v with domain }, Model.synced { m.edited (.setDomain v.ref.index domain) 0 0 with
      handles := m.handles.modify v.ref.index fun listed => { listed with domain } }, ?_⟩
    unfold convertDomain
    refine bind_ok_iff.2 ⟨_, _, checkVariable_ok_iff.2 ⟨rfl, rfl, owned⟩, ?_⟩
    dsimp only
    rw [if_pos accepts]
    exact bind_ok_iff.2 ⟨_, _, (onMatrix_ok_iff (Matrix.queues_setDomain ..)).2
      ⟨column_within owned, rfl, rfl⟩, rfl⟩

end Model

/-! ### Variables that calls hand out -/

/-- The variables in an answer, the slack variable of a range included. -/
def Answer.given : Answer → List Variable
  | handles vs => vs
  | handle v => [v]
  | range r => r.slack.toList
  | _ => []

namespace Request
open Model

variable {m n : Model} {a : Answer} {v : Variable}

/-- The variables that a request hands back as they were passed to it, but for their domain and name. -/
def returned : Request → List Variable
  | convertDomain v _ | setVariableName v _ => [v]
  | replaceExpression range _ | setRangeName range _ => range.slack.toList
  | _ => []

theorem given_eq_nil {r : Request} (reads : r.readsFlushed = true) (h : r.carryOut m = .ok a n) :
    a.given = [] := by
  cases r with
  | variableBounds v =>
    obtain ⟨_, _, -, last⟩ := bind_ok_iff.1 h
    obtain ⟨rfl, -⟩ := pure_ok_iff.1 last
    rfl
  | status | native =>
    cases h
    rfl
  | variableDomain | objectiveValue | variableAttribute | rowAttribute =>
    obtain ⟨_, -, rfl⟩ := of_answer h
    rfl
  | _ => cases reads

/-- A variable in an answer is listed, or is one that the request hands back. -/
theorem mem_given (r : Request) (h : r.carryOut m = .ok a n) (member : v ∈ a.given) :
    v ∈ n.handles ∨
      ∃ old ∈ r.returned, v.ref = old.ref ∧ v.lower = old.lower ∧ v.upper = old.upper := by
  cases r with
  | addVariables =>
    obtain ⟨added, done, rfl⟩ := of_answer h
    obtain ⟨-, -, rfl⟩ := addVariables_ok done
    rw [handles_synced]
    exact .inl (List.mem_append_right _ member)
  | addVariable =>
    obtain ⟨w, done, rfl⟩ := of_answer h
    obtain ⟨-, rfl⟩ := addVariable_ok done
    rw [handles_synced]
    exact .inl (List.mem_append_right _ member)
  | addWithColumn =>
    obtain ⟨w, done, rfl⟩ := of_answer h
    obtain ⟨-, -, -, rfl⟩ := addWithColumn_ok done
    rw [handles_synced]
    exact .inl (List.mem_append_right _ member)
  | handles =>
    cases h
    exact .inl member
  | addRange =>
    obtain ⟨range, done, rfl⟩ := of_answer h
    obtain ⟨plan, -, -, rfl, rfl⟩ := addRange_ok_iff.1 done
    have slack := Option.mem_toList.1 member
    rw [handles_synced]
    show v ∈ (m.withSlackOf plan _).handles ∨ _
    rw [handles_withSlackOf slack]
    exact .inl (List.mem_append_right _ (List.mem_singleton_self v))
  | convertDomain old domain =>
    obtain ⟨w, done, rfl⟩ := of_answer h
    obtain ⟨-, -, rfl, -⟩ := convertDomain_ok done
    rw [List.mem_singleton.1 member]
    exact .inr ⟨old, List.mem_singleton_self old, rfl, rfl, rfl⟩
  | setVariableName old name =>
    obtain ⟨w, done, rfl⟩ := of_answer h
    obtain ⟨-, rfl, -⟩ := setVariableName_ok done
    rw [List.mem_singleton.1 member]
    exact .inr ⟨old, List.mem_singleton_self old, rfl, rfl, rfl⟩
  | replaceExpression range expr =>
    obtain ⟨after, done, rfl⟩ := of_answer h
    obtain ⟨-, -, -, rfl, -⟩ := replaceExpression_ok done
    exact .inr ⟨v, member, rfl, rfl, rfl⟩
  | setRangeName range name =>
    obtain ⟨after, done, rfl⟩ := of_answer h
    obtain ⟨-, rfl, -⟩ := setRangeName_ok_iff.1 done
    exact .inr ⟨v, member, rfl, rfl, rfl⟩
  | counts =>
    cases h
    cases member
  | setInt | setReal | objectiveColumn | rowColumn | addRelation | rowCoefficients | addObjective |
    replaceObjective | setLinearCoefficient | objectiveCoefficients =>
    obtain ⟨_, -, rfl⟩ := of_answer h
    cases member
  | _ =>
    rw [given_eq_nil rfl h] at member
    cases member

end Request

namespace Call

variable {s : Session} {v : Variable}

def returned : Call → List Variable
  | request r => r.returned
  | _ => []

/-- The variables of the model that the call hands out or hands back. -/
def given (s : Session) (call : Call) : List Variable :=
  (call.run s).1.given.filter (·.ref.model = (call.run s).2.model.id)

theorem given_answerOf (result : Except ModelError Unit) : (answerOf result).given = [] := by
  cases result <;> rfl

theorem mem_given {call : Call} (member : v ∈ (call.run s).1.given) :
    v ∈ (call.run s).2.model.handles ∨
      ∃ old ∈ call.returned, v.ref = old.ref ∧ v.lower = old.lower ∧ v.upper = old.upper := by
  cases call with
  | request r =>
    cases result : r.carryOut s.model with
    | ok a n =>
      rw [run_ok result] at member ⊢
      exact r.mem_given result member
    | error cause n =>
      rw [run_error result] at member
      cases member
  | exportModel path =>
    rw [show ((exportModel path).run s).1.given = [] from given_answerOf _] at member
    cases member
  | importModel path =>
    rw [show ((importModel path).run s).1.given = [] from given_answerOf _] at member
    cases member
  | solve | others => cases member

theorem mirrors_run (call : Call) (sound : s.Sound) (mirrors : s.model.Mirrors) :
    (call.run s).2.model.Mirrors := by
  cases imports : call.imports (call.run s).1 with
  | false =>
    exact mirrors.revises (call.run_revises sound (mirrors.listed sound.matrix) imports)
  | true =>
    obtain ⟨d, matrix, id, handles⟩ := run_imports imports
    unfold Model.Mirrors
    rw [handles, id, matrix, Matrix.flush_of_queue rfl]

end Call

namespace Session

variable {s : Session} {known : List Variable} {v : Variable} {call : Call}

/-- The variables of the model that a list of calls hands out. -/
def handedOut : List Call → Session → List Variable
  | [], _ => []
  | call :: calls, s => call.given s ++ handedOut calls (call.run s).2

/-- The variables of the live model that calls get and hand back are known, or were handed out by an
earlier call. -/
def Genuine : List Variable → List Call → Session → Prop
  | _, [], _ => True
  | known, call :: calls, s =>
    (∀ v ∈ call.returned, v.ref.model = s.model.id → v ∈ known) ∧
      Genuine (known ++ call.given s) calls (call.run s).2

/-- Known variables have the bounds of their columns, as long as the model that they are of is live. -/
def Knows (s : Session) (known : List Variable) : Prop :=
  ∀ v ∈ known, v.ref.model < s.workspace.nextId ∧ (v.ref.model = s.model.id → s.model.Fits v)

theorem mirrors_after (calls : List Call) (sound : s.Sound) (mirrors : s.model.Mirrors) :
    (s.after calls).model.Mirrors := by
  induction calls generalizing s with
  | nil => exact mirrors
  | cons call calls ih => exact ih (call.sound_run sound) (call.mirrors_run sound mirrors)

/-- What fits before a call fits after it, unless another model has taken the place of its own. -/
theorem fits_run (call : Call) (sound : s.Sound) (mirrors : s.model.Mirrors)
    (drawn : v.ref.model < s.workspace.nextId) (fits : v.ref.model = s.model.id → s.model.Fits v)
    (live : v.ref.model = (call.run s).2.model.id) : (call.run s).2.model.Fits v := by
  cases imports : call.imports (call.run s).1 with
  | true =>
    obtain ⟨d, -, id, -⟩ := Call.run_imports imports
    rw [live, id] at drawn
    exact absurd drawn (Nat.lt_irrefl _)
  | false =>
    have revises := call.run_revises sound (mirrors.listed sound.matrix) imports
    exact (fits (live.trans revises.id)).revises revises

theorem knows_run (call : Call) (sound : s.Sound) (mirrors : s.model.Mirrors)
    (genuine : ∀ v ∈ call.returned, v.ref.model = s.model.id → v ∈ known) (knows : s.Knows known) :
    (call.run s).2.Knows (known ++ call.given s) := by
  intro v member
  rcases List.mem_append.1 member with old | new
  · obtain ⟨drawn, fits⟩ := knows v old
    exact ⟨drawn.trans_le (call.nextId_le_run s), fits_run call sound mirrors drawn fits⟩
  · obtain ⟨answered, own⟩ := List.mem_filter.1 new
    have live : v.ref.model = (call.run s).2.model.id := of_decide_eq_true own
    refine ⟨live.trans_lt (call.sound_run sound).drawn, fun _ => ?_⟩
    rcases Call.mem_given answered with listed | ⟨copied, passed, ref, lower, upper⟩
    · exact (call.mirrors_run sound mirrors).fits listed
    · -- the bounds of a copy are those of the variable that it was made of
      cases imports : call.imports (call.run s).1 with
      | true => cases call <;> first | cases imports | cases passed
      | false =>
        have revises := call.run_revises sound (mirrors.listed sound.matrix) imports
        rw [ref] at live
        obtain ⟨-, fits⟩ := knows copied (genuine copied passed (live.trans revises.id))
        obtain ⟨c, present, left, right⟩ := (fits (live.trans revises.id)).revises revises
        exact ⟨c, ref.symm ▸ present, left.trans lower.symm, right.trans upper.symm⟩

theorem knows_after (calls : List Call) (sound : s.Sound) (mirrors : s.model.Mirrors)
    (genuine : s.Genuine known calls) (knows : s.Knows known) :
    (s.after calls).Knows (known ++ s.handedOut calls) := by
  induction calls generalizing s known with
  | nil =>
    rw [handedOut, List.append_nil]
    exact knows
  | cons call calls ih =>
    obtain ⟨first, rest⟩ := genuine
    rw [handedOut, ← List.append_assoc]
    exact ih (call.sound_run sound) (call.mirrors_run sound mirrors) rest
      (knows_run call sound mirrors first knows)

/-- Whatever is called, there is one variable for each column, in order, with what the column will have
once the queue is carried out.  A checked variable is within the list, and if variables were not made
up, its bounds are those of its column, so that a change of its domain is checked against these. -/
theorem variables_mirror_columns (w : Workspace) (name : String) (env : Environment)
    (calls : List Call) :
    let s := (create w name env).after calls
    let columns : List MatrixColumn := s.model.matrix.flush.body.columns
    s.model.handles.length = s.model.matrix.columnCount ∧
      (∀ i : Nat, s.model.handles[i]? = columns[i]?.map fun c =>
        Variable.mk ⟨s.model.id, i⟩ c.lower c.upper c.domain c.name) ∧
      (∀ v : Variable, s.model.ownsColumn v.ref = true → v.ref.index < s.model.handles.length) ∧
      ((create w name env).Genuine [] calls → ∀ v ∈ (create w name env).handedOut calls,
        s.model.ownsColumn v.ref = true →
          ∃ c, columns[v.ref.index]? = some c ∧ c.lower = v.lower ∧ c.upper = v.upper ∧
            ∀ domain : Domain, (∃ after n, Model.convertDomain v domain s.model = .ok after n) ↔
              domain.acceptsBounds c.lower c.upper = true) := by
  intro s columns
  have start := sound_create w name env
  have mirrors : s.model.Mirrors := mirrors_after calls start rfl
  have length := (mirrors.listed (sound_after calls start).matrix).length
  refine ⟨length, mirrors.getElem?, ?_, ?_⟩
  · intro v owned
    rw [length]
    exact Model.column_within owned
  · intro genuine v member owned
    have knows := knows_after calls start rfl genuine (List.forall_mem_nil _)
    obtain ⟨c, present, lower, upper⟩ := (knows v member).2 (Model.column_live owned)
    refine ⟨c, present, lower, upper, fun domain => ?_⟩
    rw [lower, upper]
    exact Model.convertDomain_accepts owned domain

def freshVariable : Variable := ⟨⟨0, 0⟩, 0, 4, .continuous, some "x"⟩

/-- With lazy updates, a variable and a range are added.  The variable is then changed through copies of
the first handle, which are stale the second time, and the last change is refused. -/
def staleCalls : List Call :=
  [.request (.setInt .updateMode 0), .request (.addVariable 0 4 .continuous (some "x")),
    .request (.addRange 1 (.ofVariable freshVariable) 3 (some "r")),
    .request (.convertDomain freshVariable .integer),
    .request (.setVariableName freshVariable "y"),
    .request (.convertDomain freshVariable .binary)]

theorem variables_mirror_columns_staleCalls :
    let start := create .empty "test" ⟨.none, .default⟩
    start.Genuine [] staleCalls ∧ freshVariable ∈ start.handedOut staleCalls ∧
      (start.after staleCalls).model.ownsColumn freshVariable.ref = true ∧
      ∃ c, (start.after staleCalls).model.matrix.flush.body.columns[freshVariable.ref.index]? =
        some c ∧ c.lower = 0 ∧ c.upper = 4 := by
  intro start
  have genuine : start.Genuine [] staleCalls := by
    refine ⟨?_, ?_, ?_, ?_, ?_, ?_, trivial⟩ <;> decide +kernel
  have member : freshVariable ∈ start.handedOut staleCalls := by decide +kernel
  have owned : (start.after staleCalls).model.ownsColumn freshVariable.ref = true := by
    decide +kernel
  obtain ⟨-, -, -, fits⟩ :=
    variables_mirror_columns .empty "test" ⟨.none, .default⟩ staleCalls
  obtain ⟨c, present, lower, upper, -⟩ := fits genuine freshVariable member owned
  subst start
  exact ⟨genuine, member, owned, c, present, lower, upper⟩

end Session

end LinProg
