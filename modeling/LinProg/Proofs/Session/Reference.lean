import Mathlib
import LinProg.Proofs.Session.Failure

/-!
# References

A handle refers to a column, to a row or to one generation of the objective of a model.  A request
checks the references of its handles in order and fails at the first one that its model does not
accept: `Request.refuses_carryOut`.  What a successful request hands out refers to what it made, or to
a listed variable, and its model accepts it: `Request.accepts_issued`.
-/

namespace LinProg
open Operation

/-- What a handle refers to. -/
inductive Reference where
  | column (ref : Ref)
  | row (ref : Ref)
  | objective (model generation : Nat)
deriving DecidableEq

namespace Reference

def model : Reference → Nat
  | column ref | row ref => ref.model
  | objective model _ => model

def kind : Reference → HandleKind
  | column _ => .column
  | row _ => .row
  | objective _ _ => .objective

def index : Reference → Nat
  | column ref | row ref => ref.index
  | objective _ _ => 0

end Reference

def Model.accepts (m : Model) : Reference → Bool
  | .column ref => m.ownsColumn ref
  | .row ref => m.ownsRow ref
  | .objective model generation => m.ownsObjective model generation

/-! ### Refusals -/

/-- The operation fails at the first reference of the list that its model does not accept, and leaves
the model as it is. -/
def Refuses {α : Type} (hs : List Reference) (op : ModelM α) : Prop :=
  ∀ m h, hs.find? (fun k => !m.accepts k) = some h →
    op m = .error (.invalidReference h.kind h.index) m

/-- The operation does no more than to check the references of the list. -/
structure Checks {α : Type} (hs : List Reference) (op : ModelM α) : Prop where
  refuses : Refuses hs op
  passes : ∀ m : Model, hs.find? (fun k => !m.accepts k) = none → ∃ a, op m = .ok a m

section

variable {α β : Type} {hs ks : List Reference} {f : ModelM α} {g : α → ModelM β}

theorem Refuses.nil (op : ModelM α) : Refuses [] op := by
  intro m h first
  cases first

theorem Refuses.bind (refuses : Refuses hs f) : Refuses hs (f >>= g) := by
  intro m h first
  exact bind_error_iff.2 (.inl (refuses m h first))

theorem Checks.pure (a : α) : Checks [] (Pure.pure a) :=
  ⟨.nil _, fun _ _ => ⟨a, rfl⟩⟩

theorem Checks.bind_refuses (checks : Checks hs f) (then' : ∀ a, Refuses ks (g a)) :
    Refuses (hs ++ ks) (f >>= g) := by
  intro m h first
  rw [List.find?_append] at first
  cases early : hs.find? (fun k => !m.accepts k) with
  | some k =>
    rw [early] at first
    cases first
    exact checks.refuses.bind m h early
  | none =>
    rw [early] at first
    obtain ⟨a, passed⟩ := checks.passes m early
    exact bind_error_iff.2 (.inr ⟨a, m, passed, then' a m h first⟩)

theorem Checks.bind (checks : Checks hs f) (then' : ∀ a, Checks ks (g a)) :
    Checks (hs ++ ks) (f >>= g) := by
  refine ⟨checks.bind_refuses fun a => (then' a).refuses, ?_⟩
  intro m all
  rw [List.find?_append, Option.or_eq_none_iff] at all
  obtain ⟨a, first⟩ := checks.passes m all.1
  obtain ⟨b, second⟩ := (then' a).passes m all.2
  exact ⟨b, bind_ok_iff.2 ⟨a, m, first, second⟩⟩

theorem Checks.map (checks : Checks hs f) (r : α → β) : Checks hs (do return r (← f)) := by
  rw [← List.append_nil hs]
  exact checks.bind fun a => .pure (r a)

theorem Checks.mapM {γ : Type} {r : γ → Reference} {f : γ → ModelM α}
    (each : ∀ c, Checks [r c] (f c)) (cs : List γ) : Checks (cs.map r) (cs.mapM f) := by
  induction cs with
  | nil => exact .pure _
  | cons c cs ih =>
    rw [List.mapM_cons]
    exact (each c).bind fun a => ih.map _

end

namespace Model

theorem checks_singleton {α : Type} {h : Reference} {op : ModelM α}
    (passes : ∀ m : Model, m.accepts h = true → ∃ a, op m = .ok a m)
    (refuses : ∀ m : Model, m.accepts h = false →
      op m = .error (.invalidReference h.kind h.index) m) : Checks [h] op := by
  constructor
  · intro m k first
    rw [List.find?_singleton] at first
    split at first
    · rename_i refused
      cases first
      exact refuses m (by simpa using refused)
    · cases first
  · intro m none
    rw [List.find?_singleton] at none
    split at none
    · cases none
    · rename_i accepted
      exact passes m (by simpa using accepted)

theorem checks_checkVariable (ref : Ref) : Checks [.column ref] (checkVariable ref) := by
  apply checks_singleton
  · intro m accepted
    exact ⟨ref.index, checkVariable_ok_iff.2 ⟨rfl, rfl, accepted⟩⟩
  · intro m refused
    have : m.ownsColumn ref = false := refused
    unfold checkVariable
    apply bind_error_iff.2
    right
    refine ⟨m, m, rfl, ?_⟩
    rw [this]
    rfl

theorem checks_checkRow (ref : Ref) : Checks [.row ref] (checkRow ref) := by
  apply checks_singleton
  · intro m accepted
    exact ⟨ref.index, checkRow_ok_iff.2 ⟨rfl, rfl, accepted⟩⟩
  · intro m refused
    have : m.ownsRow ref = false := refused
    unfold checkRow
    apply bind_error_iff.2
    right
    refine ⟨m, m, rfl, ?_⟩
    rw [this]
    rfl

theorem checks_checkObjective (model generation : Nat) :
    Checks [.objective model generation] (checkObjective model generation) := by
  apply checks_singleton
  · intro m accepted
    exact ⟨⟨⟩, checkObjective_ok_iff.2 ⟨rfl, accepted⟩⟩
  · intro m refused
    have : m.ownsObjective model generation = false := refused
    unfold checkObjective
    apply bind_error_iff.2
    right
    refine ⟨m, m, rfl, ?_⟩
    rw [this]
    rfl

def exprReferences (e : Expr) : List Reference := e.coefficients.map fun t => .column t.1

theorem checks_exprTerms (e : Expr) : Checks (exprReferences e) (exprTerms e) :=
  .mapM (fun t : Ref × Float => (checks_checkVariable t.1).map fun i => (i, t.2)) e.coefficients

/-- The references of a column: the objective, then the rows. -/
def columnReferences (column : Column) : List Reference :=
  (column.objective.toList.map fun part => .objective part.model part.generation) ++
    column.rows.toList.map fun t => .row t.1

theorem checks_columnObjective (column : Column) :
    Checks (column.objective.toList.map fun part => .objective part.model part.generation)
      (columnObjective column) := by
  unfold columnObjective
  cases column.objective with
  | none => exact .pure _
  | some part => exact (checks_checkObjective part.model part.generation).map _

/-- The reference of the slack variable that a range has, if any. -/
def slackReferences (slack : Option Variable) : List Reference :=
  slack.toList.map fun v => .column v.ref

theorem checks_desiredEntries (range : Range) (expr : Expr) :
    Checks (exprReferences expr ++ slackReferences range.slack) (desiredEntries range expr) := by
  refine (checks_exprTerms expr).bind fun terms => ?_
  cases range.slack with
  | none => exact .pure _
  | some v => exact (checks_checkVariable v.ref).map _

end Model

namespace Request
open Model

/-- The references that a request checks, in order.  A range looks at its bounds before. -/
def checked : Request → List Reference
  | objectiveColumn objective _ => [.objective objective.model objective.generation]
  | rowColumn row _ => [.row row]
  | addWithColumn column .. => columnReferences column
  | convertDomain v _ => [.column v.ref]
  | setVariableName v _ => [.column v.ref]
  | variableBounds v => [.column v.ref]
  | variableDomain v => [.column v.ref]
  | addRange lower expr upper _ =>
    if (RowPlan.ofBounds? lower upper).isSome then exprReferences expr else []
  | addRelation left _ right _ => exprReferences (left.sub right)
  | replaceExpression range expr =>
    .row range.ref :: (exprReferences expr ++ slackReferences range.slack)
  | setRangeName range _ => [.row range.ref]
  | rowCoefficients row => [.row row]
  | addObjective expr _ => exprReferences expr
  | replaceObjective objective expr =>
    .objective objective.model objective.generation :: exprReferences expr
  | setLinearCoefficient objective v _ =>
    [.objective objective.model objective.generation, .column v.ref]
  | variableAttribute _ vs => vs.map fun v => .column v.ref
  | rowAttribute _ rows => rows.map .row
  | _ => []

theorem refuses_addRange (lower : Float) (expr : Expr) (upper : Float) (name : Option String) :
    Refuses (if (RowPlan.ofBounds? lower upper).isSome then exprReferences expr else [])
      (Model.addRange lower expr upper name) := by
  unfold Model.addRange
  cases RowPlan.ofBounds? lower upper with
  | none => exact .nil _
  | some plan => exact (checks_exprTerms expr).refuses.bind

/-- A request fails at the first reference that its model does not accept. -/
theorem refuses_carryOut (r : Request) : Refuses r.checked r.carryOut := by
  cases r with
  | objectiveColumn o => exact (checks_checkObjective o.model o.generation).refuses.bind.bind
  | rowColumn row => exact (checks_checkRow row).refuses.bind.bind
  | addWithColumn column =>
    refine Refuses.bind ((checks_columnObjective column).bind_refuses fun c => ?_)
    exact Refuses.bind (Checks.mapM
      (fun t : Ref × Float => (checks_checkRow t.1).map fun i => (i, t.2)) _).refuses
  | convertDomain v => exact (checks_checkVariable v.ref).refuses.bind.bind
  | setVariableName v => exact (checks_checkVariable v.ref).refuses.bind.bind
  | variableBounds v => exact (checks_checkVariable v.ref).refuses.bind.bind
  | variableDomain v => exact (checks_checkVariable v.ref).refuses.bind.bind
  | addRange lower expr upper name => exact (refuses_addRange lower expr upper name).bind
  | addRelation left relation right => exact (checks_exprTerms (left.sub right)).refuses.bind.bind
  | replaceExpression range expr =>
    exact ((checks_checkRow range.ref).bind_refuses fun row =>
      (checks_desiredEntries range expr).refuses.bind).bind
  | setRangeName range => exact (checks_checkRow range.ref).refuses.bind.bind
  | rowCoefficients row => exact (checks_checkRow row).refuses.bind.bind
  | addObjective expr => exact (checks_exprTerms expr).refuses.bind.bind
  | replaceObjective o expr =>
    exact ((checks_checkObjective o.model o.generation).bind_refuses fun u =>
      (checks_exprTerms expr).refuses.bind).bind
  | setLinearCoefficient o v =>
    exact ((checks_checkObjective o.model o.generation).bind_refuses fun u =>
      (checks_checkVariable v.ref).refuses.bind).bind
  | variableAttribute what vs =>
    exact (Checks.mapM (fun v : Variable => checks_checkVariable v.ref) vs).refuses.bind.bind
  | rowAttribute what rows => exact (Checks.mapM checks_checkRow rows).refuses.bind.bind
  | _ => exact .nil _

end Request

/-! ### The variables of a model -/

namespace Model

variable {m n x : Model}

/-- The listed variables are those on the columns, in order. -/
def Listed (m : Model) : Prop :=
  m.handles.map (·.ref) = (List.range m.matrix.columnCount).map fun i => ⟨m.id, i⟩

theorem Listed.accepts (listed : m.Listed) {v : Variable} (member : v ∈ m.handles) :
    m.ownsColumn v.ref = true := by
  have mapped : v.ref ∈ m.handles.map (·.ref) := List.mem_map_of_mem member
  rw [listed] at mapped
  obtain ⟨i, within, same⟩ := List.mem_map.1 mapped
  rw [← same]
  simpa [ownsColumn] using within

theorem Listed.of_same (listed : m.Listed) (id : n.id = m.id)
    (count : n.matrix.columnCount = m.matrix.columnCount)
    (refs : n.handles.map (·.ref) = m.handles.map (·.ref)) : n.Listed := by
  unfold Listed
  rw [id, count, refs]
  exact listed

theorem Listed.append (listed : m.Listed) {added : List Variable} {count : Nat}
    (new : added.map (·.ref) =
      (List.range count).map fun i => ⟨m.id, m.matrix.columnCount + i⟩)
    (id : n.id = m.id) (columns : n.matrix.columnCount = m.matrix.columnCount + count)
    (handles : n.handles = m.handles ++ added) : n.Listed := by
  unfold Listed
  rw [id, columns, handles, List.map_append, listed, new, List.range_add, List.map_append,
    List.map_map]
  rfl

theorem Listed.synced (listed : m.Listed) : m.synced.Listed := by
  apply listed.of_same <;> simp

theorem refs_modify (handles : List Variable) (index : Nat) {f : Variable → Variable}
    (same : ∀ v, (f v).ref = v.ref) :
    (handles.modify index f).map (·.ref) = handles.map (·.ref) := by
  apply List.ext_getElem?
  intro i
  simp only [List.getElem?_map, List.getElem?_modify]
  cases handles[i]? with
  | none => rfl
  | some v =>
    split
    · exact congrArg some (same v)
    · rfl

theorem refs_handlesOf (model start : Nat) (columns : List MatrixColumn) :
    (handlesOf model start columns).map (·.ref) =
      (List.range columns.length).map fun i => ⟨model, start + i⟩ := by
  apply List.ext_getElem
  · simp [handlesOf]
  · intro i left right
    simp [handlesOf]

/-- What a request does to the generation and to the list of variables. -/
structure Follows (installs : Bool) (m n : Model) : Prop where
  generation : n.generation = m.generation + installs.toNat
  listed : m.Listed → n.Listed

namespace Follows

variable {installs : Bool}

theorem refl (m : Model) : m.Follows false m := ⟨rfl, fun listed => listed⟩

theorem synced (follows : m.Follows installs n) : m.Follows installs n.synced :=
  ⟨(generation_synced n).trans follows.generation, fun listed => (follows.listed listed).synced⟩

theorem of_same (generation : n.generation = m.generation + installs.toNat) (id : n.id = m.id)
    (count : n.matrix.columnCount = m.matrix.columnCount)
    (refs : n.handles.map (·.ref) = m.handles.map (·.ref)) : m.Follows installs n :=
  ⟨generation, fun listed => listed.of_same id count refs⟩

end Follows

theorem follows_addVariables {lowers uppers : List Float} {domains : Option (List Domain)}
    {names : Option (List String)} {added : List Variable}
    (h : addVariables lowers uppers domains names m = .ok added n) : m.Follows false n := by
  obtain ⟨lengths, rfl, rfl⟩ := addVariables_ok h
  apply Follows.synced
  refine ⟨rfl, fun listed => listed.append ?_ rfl rfl rfl⟩
  rw [refs_handlesOf, Matrix.length_columnsOf lengths]

theorem follows_added {v : Variable} {e : Edit} (ref : v.ref = ⟨m.id, m.matrix.columnCount⟩) :
    m.Follows false { m.edited e 1 0 with handles := m.handles ++ [v] } := by
  refine ⟨rfl, fun listed => listed.append ?_ rfl rfl rfl⟩
  simp [ref]

theorem follows_withSlackOf (m : Model) (plan : RowPlan) (name : Option String) :
    m.Follows false (m.withSlackOf plan name) := by
  unfold withSlackOf
  split
  · rename_i v own
    apply follows_added
    obtain ⟨width, -, rfl⟩ := Option.map_eq_some_iff.1 own
    rfl
  · exact .refl m

theorem handles_withSlackOf {plan : RowPlan} {name : Option String} {v : Variable}
    (own : slackOf m.id m.matrix.columnCount plan name = some v) :
    (m.withSlackOf plan name).handles = m.handles ++ [v] := by
  unfold withSlackOf
  rw [own]

theorem follows_addRange {lower upper : Float} {expr : Expr} {name : Option String}
    {range : Range} (h : addRange lower expr upper name m = .ok range n) : m.Follows false n := by
  obtain ⟨plan, -, -, -, rfl⟩ := addRange_ok_iff.1 h
  apply Follows.synced
  have slack := follows_withSlackOf m plan name
  exact ⟨slack.generation, fun listed => (slack.listed listed).of_same rfl rfl rfl⟩

theorem follows_replaceExpression {range after : Range} {expr : Expr}
    (h : replaceExpression range expr m = .ok after n) : m.Follows false n := by
  obtain ⟨-, -, -, -, installed, -, rfl⟩ := replaceExpression_ok h
  apply Follows.synced
  apply Follows.of_same
  · unfold withRhs withDelta
    split <;> split <;> rfl
  · rw [id_withRhs, id_withDelta]
    rfl
  · rw [columnCount_withRhs, columnCount_withDelta]
    exact Matrix.columnCount_flush m.matrix
  · unfold withRhs withDelta
    split <;> split <;> rfl

end Model

namespace Request
open Model

variable {m n : Model} {a : Answer}

/-- The request installs an objective, if it succeeds. -/
def installs : Request → Bool
  | addObjective _ _ => true
  | _ => false

theorem of_answer {α : Type} {op : ModelM α} {f : α → Answer}
    (h : (do return f (← op) : ModelM Answer) m = .ok a n) : ∃ b, op m = .ok b n ∧ a = f b := by
  obtain ⟨b, k, done, last⟩ := bind_ok_iff.1 h
  obtain ⟨rfl, rfl⟩ := pure_ok_iff.1 last
  exact ⟨b, done, rfl⟩

theorem follows (r : Request) (h : r.carryOut m = .ok a n) : m.Follows r.installs n := by
  -- a request that reads what is flushed keeps the model, so only the others have a case each
  cases reads : r.readsFlushed with
  | true =>
    cases (r.keeps_carryOut reads).of_ok h
    cases r with
    | addObjective => cases reads
    | _ => exact .refl m
  | false =>
    cases r with
    | setInt param value =>
      obtain ⟨_, done, -⟩ := of_answer h
      obtain ⟨params, -, rfl⟩ := setInt_ok done
      exact .synced (.of_same rfl rfl rfl rfl)
    | setReal param value =>
      obtain ⟨_, done, -⟩ := of_answer h
      obtain ⟨params, -, rfl⟩ := setReal_ok done
      exact .of_same rfl rfl rfl rfl
    | addVariables =>
      obtain ⟨_, done, -⟩ := of_answer h
      exact follows_addVariables done
    | addVariable =>
      obtain ⟨_, done, -⟩ := of_answer h
      obtain ⟨rfl, rfl⟩ := addVariable_ok done
      exact .synced (follows_added rfl)
    | objectiveColumn o c =>
      obtain ⟨_, done, -⟩ := of_answer h
      cases (keeps_objectiveColumn o c).of_ok done
      exact .refl m
    | rowColumn row c =>
      obtain ⟨_, done, -⟩ := of_answer h
      cases (keeps_rowColumn row c).of_ok done
      exact .refl m
    | addWithColumn =>
      obtain ⟨_, done, -⟩ := of_answer h
      obtain ⟨-, -, rfl, rfl⟩ := addWithColumn_ok done
      exact .synced (follows_added rfl)
    | convertDomain =>
      obtain ⟨_, done, -⟩ := of_answer h
      obtain ⟨-, -, -, rfl⟩ := convertDomain_ok done
      exact .synced (.of_same rfl rfl rfl (refs_modify _ _ fun _ => rfl))
    | setVariableName =>
      obtain ⟨_, done, -⟩ := of_answer h
      obtain ⟨-, -, rfl⟩ := setVariableName_ok done
      exact .synced (.of_same rfl rfl rfl (refs_modify _ _ fun _ => rfl))
    | handles =>
      cases h
      exact .refl m
    | counts =>
      cases h
      exact .refl m
    | addRange =>
      obtain ⟨_, done, -⟩ := of_answer h
      exact follows_addRange done
    | addRelation =>
      obtain ⟨_, done, -⟩ := of_answer h
      obtain ⟨-, -, rfl⟩ := addRelation_ok_iff.1 done
      exact .synced (.of_same rfl rfl rfl rfl)
    | replaceExpression =>
      obtain ⟨_, done, -⟩ := of_answer h
      exact follows_replaceExpression done
    | setRangeName =>
      obtain ⟨_, done, -⟩ := of_answer h
      obtain ⟨-, -, rfl⟩ := setRangeName_ok_iff.1 done
      exact .synced (.of_same rfl rfl rfl rfl)
    | rowCoefficients =>
      obtain ⟨_, done, -⟩ := of_answer h
      obtain ⟨-, rfl, -⟩ := rowCoefficients_ok done
      exact .of_same rfl rfl (Matrix.columnCount_flush m.matrix) rfl
    | addObjective =>
      obtain ⟨_, done, -⟩ := of_answer h
      obtain ⟨-, -, rfl⟩ := addObjective_ok done
      exact .synced (.of_same rfl rfl rfl rfl)
    | replaceObjective =>
      obtain ⟨_, done, -⟩ := of_answer h
      obtain ⟨-, -, -, rfl⟩ := replaceObjective_ok done
      exact .synced (.of_same rfl rfl rfl rfl)
    | setLinearCoefficient =>
      obtain ⟨_, done, -⟩ := of_answer h
      obtain ⟨-, -, -, rfl⟩ := setLinearCoefficient_ok done
      exact .synced (.of_same rfl rfl rfl rfl)
    | objectiveCoefficients =>
      cases h
      exact .of_same rfl rfl (Matrix.columnCount_flush m.matrix) rfl
    | _ => cases reads

/-- The references of the handles that a request hands out.  Handles that it changes are not new. -/
def issued : Request → Answer → List Reference
  | addVariables .., .handles vs => vs.map fun v => .column v.ref
  | addVariable .., .handle v => [.column v.ref]
  | addWithColumn .., .handle v => [.column v.ref]
  | handles, .handles vs => vs.map fun v => .column v.ref
  | addRange .., .range range => .row range.ref :: slackReferences range.slack
  | addRelation .., .constraint constraint => [.row constraint.ref]
  | addObjective .., .objective objective => [.objective objective.model objective.generation]
  | _, _ => []

theorem accepts_addRange {lower upper : Float} {expr : Expr} {name : Option String}
    {range : Range} (listed : m.Listed)
    (done : Model.addRange lower expr upper name m = .ok range n) :
    ∀ h ∈ Reference.row range.ref :: slackReferences range.slack, n.accepts h = true := by
  have after := (follows_addRange done).listed listed
  obtain ⟨plan, -, -, rfl, rfl⟩ := addRange_ok_iff.1 done
  intro h member
  rcases List.mem_cons.1 member with rfl | own
  · simp [Model.accepts, ownsRow, edited, Matrix.grown]
  · obtain ⟨v, slack, rfl⟩ := List.mem_map.1 own
    apply after.accepts
    rw [handles_synced]
    show v ∈ (m.withSlackOf plan name).handles
    rw [handles_withSlackOf (Option.mem_toList.1 slack)]
    simp

theorem accepts_issued (r : Request) (listed : m.Listed) (h : r.carryOut m = .ok a n) :
    ∀ k ∈ r.issued a, n.accepts k = true := by
  have after := (r.follows h).listed listed
  have columns (vs : List Variable) (all : ∀ v ∈ vs, v ∈ n.handles) :
      ∀ k ∈ vs.map fun v => Reference.column v.ref, n.accepts k = true := by
    intro k member
    obtain ⟨v, given, rfl⟩ := List.mem_map.1 member
    exact after.accepts (all v given)
  cases r with
  | addVariables =>
    obtain ⟨added, done, rfl⟩ := of_answer h
    obtain ⟨-, -, rfl⟩ := addVariables_ok done
    apply columns
    intro v given
    simp [given]
  | addVariable =>
    obtain ⟨v, done, rfl⟩ := of_answer h
    obtain ⟨-, rfl⟩ := addVariable_ok done
    apply columns [v]
    simp
  | addWithColumn =>
    obtain ⟨v, done, rfl⟩ := of_answer h
    obtain ⟨-, -, -, rfl⟩ := addWithColumn_ok done
    apply columns [v]
    simp
  | handles =>
    cases h
    exact columns _ fun _ given => given
  | addRange =>
    obtain ⟨range, done, rfl⟩ := of_answer h
    exact accepts_addRange listed done
  | addRelation =>
    obtain ⟨constraint, done, rfl⟩ := of_answer h
    obtain ⟨-, rfl, rfl⟩ := addRelation_ok_iff.1 done
    simp [issued, Model.accepts, ownsRow, edited, Matrix.grown]
  | addObjective =>
    obtain ⟨objective, done, rfl⟩ := of_answer h
    obtain ⟨-, rfl, rfl⟩ := addObjective_ok done
    simp [issued, Model.accepts, ownsObjective, edited]
  | _ => exact List.forall_mem_nil _

end Request

/-! ### Calls -/

namespace Model

variable {m n : Model} {installs : Bool} {h : Reference}

/-- The second model is the first one some time later, an objective having been installed or not. -/
structure Advances (installs : Bool) (m n : Model) : Prop extends Follows installs m n where
  id : n.id = m.id
  columns : m.matrix.columnCount ≤ n.matrix.columnCount
  rows : m.matrix.rowCount ≤ n.matrix.rowCount

theorem Advances.refl (m : Model) : m.Advances false m :=
  ⟨.refl m, rfl, Nat.le_refl _, Nat.le_refl _⟩

theorem Advances.flushed (m : Model) : m.Advances false m.flushed where
  toFollows := .of_same rfl rfl (Matrix.columnCount_flush m.matrix) rfl
  id := rfl
  columns := (Matrix.columnCount_flush m.matrix).ge
  rows := (Matrix.rowCount_flush m.matrix).ge

/-- An accepted reference stays accepted, unless it is to an objective and one is installed. -/
theorem Advances.accepts (advances : m.Advances installs n)
    (current : h.kind = .objective → installs = false) (accepted : m.accepts h = true) :
    n.accepts h = true := by
  have columns := advances.columns
  have rows := advances.rows
  cases h with
  | column ref =>
    simp only [Model.accepts, ownsColumn, Bool.and_eq_true, decide_eq_true_eq] at accepted ⊢
    rw [advances.id]
    exact ⟨accepted.1, by omega⟩
  | row ref =>
    simp only [Model.accepts, ownsRow, Bool.and_eq_true, decide_eq_true_eq] at accepted ⊢
    rw [advances.id]
    exact ⟨accepted.1, by omega⟩
  | objective model generation =>
    have same := advances.generation
    rw [current rfl] at same
    simp only [Model.accepts, ownsObjective, Bool.and_eq_true, decide_eq_true_eq] at accepted ⊢
    rw [advances.id, same]
    exact accepted

/-- The reference is to something that the model has no more. -/
def Outgrew (m : Model) : Reference → Prop
  | .column ref | .row ref => ref.model ≠ m.id
  | .objective model generation => model = m.id → generation < m.generation

theorem Outgrew.of_id (other : h.model ≠ m.id) : m.Outgrew h := by
  cases h with
  | column ref => exact other
  | row ref => exact other
  | objective model generation => exact fun same => absurd same other

theorem Outgrew.refused (outgrew : m.Outgrew h) : m.accepts h = false := by
  cases h with
  | column ref =>
    have other : ref.model ≠ m.id := outgrew
    simp [Model.accepts, ownsColumn, other]
  | row ref =>
    have other : ref.model ≠ m.id := outgrew
    simp [Model.accepts, ownsRow, other]
  | objective model generation =>
    have older : model = m.id → generation < m.generation := outgrew
    simp only [Model.accepts, ownsObjective, Bool.and_eq_false_iff, decide_eq_false_iff_not]
    by_cases same : model = m.id
    · exact .inr (Nat.ne_of_lt (older same))
    · exact .inl same

theorem Outgrew.advances (outgrew : m.Outgrew h) (advances : m.Advances installs n) :
    n.Outgrew h := by
  cases h with
  | column ref =>
    have other : ref.model ≠ m.id := outgrew
    rw [← advances.id] at other
    exact other
  | row ref =>
    have other : ref.model ≠ m.id := outgrew
    rw [← advances.id] at other
    exact other
  | objective model generation =>
    intro same
    have older := outgrew (same.trans advances.id)
    have later := advances.generation
    omega

/-- Installing an objective leaves the earlier ones behind. -/
theorem Advances.outgrew (advances : m.Advances true n) (accepted : m.accepts h = true)
    (objective : h.kind = .objective) : n.Outgrew h := by
  cases h with
  | column ref => cases objective
  | row ref => cases objective
  | objective model generation =>
    simp only [Model.accepts, ownsObjective, Bool.and_eq_true, decide_eq_true_eq] at accepted
    intro _
    have later := advances.generation
    simp only [Bool.toNat_true] at later
    omega

theorem model_of_accepts (accepted : m.accepts h = true) : h.model = m.id := by
  cases h with
  | column ref => exact column_live accepted
  | row ref => exact row_live accepted
  | objective model generation =>
    simp only [Model.accepts, ownsObjective, Bool.and_eq_true, decide_eq_true_eq] at accepted
    exact accepted.1

end Model

namespace Call

variable {s : Session}

/-- The call has read a model file in the place of the model. -/
def imports : Call → Answer → Bool
  | importModel _, .done => true
  | _, _ => false

def installs : Call → Answer → Bool
  | request (.addObjective _ _), .objective _ => true
  | _, _ => false

/-- The references of the handles that a call hands out. -/
def issued : Call → Answer → List Reference
  | request r, a => r.issued a
  | _, _ => []

theorem installs_request {r : Request} {m n : Model} {a : Answer} (h : r.carryOut m = .ok a n) :
    (request r).installs a = r.installs := by
  cases r with
  | addObjective =>
    obtain ⟨objective, -, rfl⟩ := Request.of_answer h
    rfl
  | _ => rfl

theorem advances_request (r : Request) (sound : s.Sound) :
    s.model.Advances ((request r).installs ((request r).run s).1)
      ((request r).run s).2.model := by
  have grows := r.grows s.model sound.matrix
  cases result : r.carryOut s.model with
  | error cause n =>
    rw [run_error result]
    cases r.failed_unchanged sound.matrix result
    cases r <;> exact .refl s.model
  | ok a n =>
    rw [result] at grows
    rw [run_ok result, installs_request result]
    exact ⟨r.follows result, grows.id, grows.matrix.columnCount_le, grows.matrix.rowCount_le⟩

/-- A call either imports a model, which gets a new identity, or leaves the model what it was. -/
theorem run_advances (call : Call) (sound : s.Sound) :
    (call.imports (call.run s).1 = true ∧ (call.run s).2.model.id = s.workspace.nextId ∧
      (call.run s).2.model.Listed ∧
      (call.run s).2.workspace.nextId = s.workspace.nextId + 1) ∨
    (call.imports (call.run s).1 = false ∧
      s.model.Advances (call.installs (call.run s).1) (call.run s).2.model) := by
  cases call with
  | request r => exact .inr ⟨rfl, advances_request r sound⟩
  | solve installed =>
    obtain ⟨-, columns, rows⟩ := Matrix.flush_optimize s.model.matrix s.model.env.solver
      s.model.env.params (s.workspace.host installed)
    exact .inr ⟨rfl, .of_same rfl rfl columns rfl, rfl, columns.ge, rows.ge⟩
  | exportModel path =>
    refine .inr ⟨rfl, ?_⟩
    show s.model.Advances false _
    rcases model_export path s with same | same
    · rw [same]
      exact .refl _
    · rw [same]
      exact .flushed _
  | importModel path =>
    unfold run Workspace.importModel
    dsimp only
    cases read : Matrix.readFrom s.workspace.disk path with
    | error cause => exact .inr ⟨rfl, .refl _⟩
    | ok x =>
      obtain ⟨-, -, d, -, -, rfl⟩ := Matrix.readFrom_ok_iff.1 read
      refine .inl ⟨rfl, rfl, ?_, rfl⟩
      have refs := Model.refs_handlesOf s.workspace.nextId 0 (Matrix.ofDocument d).body.columns
      simp only [Nat.zero_add] at refs
      exact refs
  | others disk drawn => exact .inr ⟨rfl, .refl _⟩

theorem accepts_issued (call : Call) (listed : s.model.Listed) :
    ∀ h ∈ call.issued (call.run s).1, (call.run s).2.model.accepts h = true := by
  cases call with
  | request r =>
    cases result : r.carryOut s.model with
    | ok a n =>
      rw [run_ok result]
      exact r.accepts_issued listed result
    | error cause n =>
      rw [run_error result]
      cases r <;> exact List.forall_mem_nil _
  | _ => exact List.forall_mem_nil _

end Call

end LinProg
