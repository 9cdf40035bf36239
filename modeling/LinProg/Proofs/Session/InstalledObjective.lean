import Mathlib
import LinProg.Proofs.Matrix.Columns
import LinProg.Proofs.Session.Edits
import LinProg.Proofs.Session.RangeRow

/-!
# The installed objective

The current handle on an objective describes what is installed, whatever calls come between:
`objective_describes_installed`.  What a column contributes depends on whether the handle mentions it; an
`Installed` keeps the handle, and the coefficients that columns brought since its expression was put in.
-/

namespace LinProg
open Operation

/-! ### Requests that spare the objective -/

namespace Request
open Model

variable {m : Model}

theorem objective_columnsOf {lowers uppers : List Float} {domains : Option (List Domain)}
    {names : Option (List (Option String))} :
    ∀ c ∈ Matrix.columnsOf lowers uppers none domains names, c.objective = 0 := by
  intro c member
  obtain ⟨i, -, rfl⟩ := List.mem_mapIdx.1 member
  rfl

theorem spares_slackEdits (plan : RowPlan) (name : Option String) :
    ∀ e ∈ slackEdits plan name, e.SparesObjective := by
  unfold slackEdits
  split
  · exact List.forall_mem_singleton.2 (List.forall_mem_singleton.2 rfl)
  · exact List.forall_mem_nil _

theorem spares_replacementEdits (range : Range) (expr : Expr) (installed : MatrixRow) :
    ∀ e ∈ replacementEdits range expr installed, e.SparesObjective := by
  refine List.forall_mem_append.2 ⟨?_, ?_⟩
  · split
    · exact List.forall_mem_nil _
    · exact List.forall_mem_singleton.2 trivial
  · split
    · exact List.forall_mem_singleton.2 trivial
    · exact List.forall_mem_nil _

/-- The request neither changes the objective nor brings a column with a part in it. -/
def sparesObjective : Request → Bool
  | addWithColumn .. | addObjective .. | replaceObjective .. | setLinearCoefficient .. => false
  | _ => true

theorem spares_edits {r : Request} (spares : r.sparesObjective = true) :
    ∀ e ∈ r.edits m, e.SparesObjective := by
  cases r with
  | addVariables => exact List.forall_mem_singleton.2 objective_columnsOf
  | addVariable => exact List.forall_mem_singleton.2 (List.forall_mem_singleton.2 rfl)
  | addRange lower expr upper name =>
    cases planned : RowPlan.ofBounds? lower upper with
    | none =>
      simp only [edits, planned]
      exact List.forall_mem_nil _
    | some plan =>
      simp only [edits, planned]
      exact List.forall_mem_append.2 ⟨spares_slackEdits plan name,
        List.forall_mem_singleton.2 trivial⟩
  | replaceExpression range expr =>
    cases present : m.matrix.flush.body.rows[range.ref.index]? with
    | none =>
      simp only [edits, present]
      exact List.forall_mem_nil _
    | some installed =>
      simp only [edits, present]
      exact spares_replacementEdits range expr installed
  | convertDomain | setVariableName | addRelation | setRangeName =>
    exact List.forall_mem_singleton.2 trivial
  | addWithColumn | addObjective | replaceObjective | setLinearCoefficient => cases spares
  | _ => exact List.forall_mem_nil _

end Request

/-! ### The handle and what is installed -/

/-- A handle on an objective, and the coefficient that each column brought since the expression of the
handle was put in. -/
structure Installed where
  objective : Objective
  later : Nat → Float

/-- The handle may have another expression, but is a handle on the same objective. -/
structure Objective.IsCopyOf (copy objective : Objective) : Prop where
  model : copy.model = objective.model
  generation : copy.generation = objective.generation
  sense : copy.sense = objective.sense

namespace Installed

variable {w : Installed} {objective : Objective} {m : Model} {n : Matrix}

def start (objective : Objective) : Installed := ⟨objective, fun _ => 0⟩

def IsOn (w : Installed) (o : Objective) : Prop :=
  o.model = w.objective.model ∧ o.generation = w.objective.generation

instance (w : Installed) (o : Objective) : Decidable (w.IsOn o) :=
  inferInstanceAs (Decidable (_ ∧ _))

/-- The handle after a call.  A column brings its part of the objective, if it has one. -/
def next (w : Installed) : Call → Answer → Installed
  | .request (.replaceObjective o _), .objective after => if w.IsOn o then start after else w
  | .request (.setLinearCoefficient o _ _), .objective after =>
    if w.IsOn o then { w with objective := after } else w
  | .request (.addWithColumn column ..), .handle v =>
    let c := (column.objective.map (·.coefficient)).getD 0
    if v.ref.model = w.objective.model then
      { w with later := Function.update w.later v.ref.index c }
    else w
  | _, _ => w

/-- The coefficient that a column has to have in the objective. -/
def coefficient (w : Installed) (j : Nat) : Float :=
  (w.objective.expr.terms.get? ⟨w.objective.model, j⟩).getD (w.later j)

/-- The objective in the flushed matrix is as the handle says. -/
structure Describes (w : Installed) (m : Matrix) : Prop where
  sense : m.flush.body.sense = w.objective.sense
  constant : m.flush.body.constant = w.objective.expr.constant
  within : ∀ j c, w.objective.expr.terms.get? ⟨w.objective.model, j⟩ = some c → j < m.columnCount
  coefficients : ∀ j, Number.Agrees (m.flush.body.objectiveCoefficient j) (w.coefficient j)

theorem Describes.of_spares {k : Matrix} {edits : List Edit} (describes : w.Describes k)
    (body : n.flush.body = k.flush.body.applyAll edits) (columns : k.columnCount ≤ n.columnCount)
    (spares : ∀ e ∈ edits, e.SparesObjective) : w.Describes n := by
  obtain ⟨sense, constant, coefficients⟩ := Body.objective_applyAll spares k.flush.body
  constructor
  · rw [body, sense]
    exact describes.sense
  · rw [body, constant]
    exact describes.constant
  · intro j c present
    exact (describes.within j c present).trans_le columns
  · intro j
    rw [body, coefficients]
    exact describes.coefficients j

theorem describes_start (owned : m.ownsExpr objective.expr) (live : objective.model = m.id)
    (sound : m.matrix.Sound)
    (body : n.flush.body = m.matrix.flush.body.setObjective (Model.termsOf objective.expr)
      objective.expr.constant objective.sense)
    (columns : m.matrix.columnCount ≤ n.columnCount) : (start objective).Describes n := by
  have count : m.matrix.flush.body.columns.length = m.matrix.columnCount := sound.columnCount
  constructor
  · rw [body]
    rfl
  · rw [body]
    rfl
  · intro j c present
    have member := owned _ (Sparse.mem_toList_iff.2 present)
    exact (Model.column_within member).trans_le columns
  · intro j
    have within := Model.termsOf_within owned
    rw [← count] at within
    rw [body, Body.objectiveCoefficient_setObjective within, Model.valuesAt_termsOf owned]
    unfold coefficient start
    rw [live]
    cases objective.expr.terms.get? ⟨m.id, j⟩ with
    | none => exact .refl 0
    | some x => exact .zero_add rfl x

theorem describes_setCoefficient {k : Matrix} {v : Variable} {c : Float} (describes : w.Describes k)
    (sound : k.Sound) (live : v.ref.model = w.objective.model) (within : v.ref.index < k.columnCount)
    (body : n.flush.body = k.flush.body.apply (.setObjectiveCoefficient v.ref.index c))
    (columns : k.columnCount ≤ n.columnCount) :
    Describes { w with objective :=
      { w.objective with expr := w.objective.expr.setCoefficient v c } } n := by
  have count : k.flush.body.columns.length = k.columnCount := sound.columnCount
  have inside := within
  rw [← count] at inside
  have here (j : Nat) : (⟨w.objective.model, j⟩ : Ref) = v.ref ↔ j = v.ref.index :=
    ⟨fun same => congrArg Ref.index same, fun same => Ref.eq_of live.symm same⟩
  constructor
  · rw [body]
    exact describes.sense
  · rw [body]
    exact describes.constant
  · intro j x present
    dsimp only [Expr.setCoefficient] at present
    rw [Sparse.get?_set] at present
    split at present
    · rename_i same
      rw [(here j).1 same]
      exact within.trans_le columns
    · exact (describes.within j x present).trans_le columns
  · intro j
    have old := describes.coefficients j
    rw [body, Body.objectiveCoefficient_setObjectiveCoefficient inside]
    unfold coefficient at old ⊢
    dsimp only [Expr.setCoefficient]
    rw [Sparse.get?_set]
    by_cases same : j = v.ref.index
    · rw [if_pos same, if_pos ((here j).2 same)]
      exact .refl c
    · rw [if_neg same, if_neg fun ref => same ((here j).1 ref)]
      exact old

/-- A new column brings its coefficient, and the handle does not mention it. -/
theorem describes_addColumn {k : Matrix} {column : MatrixColumn} {memberships : List (Nat × Float)}
    (describes : w.Describes k) (sound : k.Sound)
    (body : n.flush.body = k.flush.body.apply (.addColumn column memberships))
    (columns : k.columnCount ≤ n.columnCount) :
    Describes { w with later := Function.update w.later k.columnCount column.objective } n := by
  have count : k.flush.body.columns.length = k.columnCount := sound.columnCount
  have plain := Body.sense_addColumn k.flush.body column memberships
  constructor
  · rw [body, Body.apply, plain.1]
    exact describes.sense
  · rw [body, Body.apply, plain.2]
    exact describes.constant
  · intro j c present
    exact (describes.within j c present).trans_le columns
  · intro j
    have old := describes.coefficients j
    rw [body, Body.apply, Body.objectiveCoefficient_addColumn, count]
    unfold coefficient at old ⊢
    dsimp only
    by_cases new : j = k.columnCount
    · have unmentioned : w.objective.expr.terms.get? ⟨w.objective.model, j⟩ = none := by
        by_contra mentioned
        obtain ⟨c, present⟩ := Option.ne_none_iff_exists'.1 mentioned
        exact absurd new (Nat.ne_of_lt (describes.within j c present))
      rw [if_pos new, unmentioned, new, Function.update_self]
      exact .refl _
    · rw [if_neg new, Function.update_of_ne new]
      exact old

end Installed

/-! ### Runs on an objective -/

/-- If the call changes an objective, it does so through the watched handle on it. -/
def Call.EditsThrough (w : Installed) : Call → Answer → Prop
  | request (.replaceObjective o _), .objective _ => w.IsOn o → o = w.objective
  | request (.setLinearCoefficient o _ _), .objective _ => w.IsOn o → o = w.objective
  | _, _ => True

/-- The watched handle is one on the objective, and describes what is installed as long as the objective
is the current one. -/
structure Installed.Holds (w : Installed) (objective : Objective) (s : Session) : Prop where
  copy : w.objective.IsCopyOf objective
  drawn : objective.model < s.workspace.nextId
  generation : objective.model = s.model.id → objective.generation ≤ s.model.generation
  describes : s.model.ownsObjective objective.model objective.generation = true →
    w.Describes s.model.matrix

namespace Model

theorem ownsObjective_iff {m : Model} {model generation : Nat} :
    m.ownsObjective model generation = true ↔ model = m.id ∧ generation = m.generation := by
  unfold ownsObjective
  rw [Bool.and_eq_true, decide_eq_true_eq, decide_eq_true_eq]

theorem addObjective_succeeds {m : Model} {expr : Expr} (owned : m.ownsExpr expr) (sense : Sense) :
    ∃ n, addObjective expr sense m = .ok ⟨m.id, m.generation + 1, sense, expr⟩ n := by
  unfold addObjective
  simp only [bind_ok_iff, exprTerms_ok_iff, onMatrix_ok_iff (Matrix.queues_setObjective ..),
    modify_ok_iff, sync_ok_iff, get_ok_iff, pure_ok_iff]
  refine ⟨_, _, m, ⟨rfl, rfl, owned⟩, ⟨⟩, _, ⟨termsOf_within owned, trivial, rfl⟩, ⟨⟩, _, rfl, ⟨⟩, _,
    rfl, _, _, ⟨rfl, rfl⟩, ?_, rfl⟩
  simp [edited]

end Model

namespace Installed

variable {s : Session} {w w' : Installed} {objective : Objective} {call : Call} {a : Answer} {n : Model}

/-- An objective that is current after a call was so before, and the call has only made edits. -/
theorem Holds.of_describes (holds : w.Holds objective s) (sound : s.Sound) (listed : s.model.Listed)
    (copy : w'.objective.IsCopyOf objective)
    (describes : s.model.ownsObjective objective.model objective.generation = true →
      (call.run s).2.model.ownsObjective objective.model objective.generation = true →
      s.model.Revises (call.edits s) (call.run s).2.model →
      s.model.matrix.columnCount ≤ (call.run s).2.model.matrix.columnCount →
      w.Describes s.model.matrix → w'.Describes (call.run s).2.model.matrix) :
    w'.Holds objective (call.run s).2 := by
  have drawn := holds.drawn.trans_le (call.nextId_le_run s)
  rcases call.run_advances sound with ⟨-, id, -, -⟩ | ⟨stays, advances⟩
  · have other : objective.model ≠ (call.run s).2.model.id := by
      rw [id]
      exact Nat.ne_of_lt holds.drawn
    refine ⟨copy, drawn, fun same => absurd same other, fun owned => ?_⟩
    exact absurd (Model.ownsObjective_iff.1 owned).1 other
  · have later := advances.generation
    refine ⟨copy, drawn, fun same => ?_, fun owned => ?_⟩
    · have before := holds.generation (same.trans advances.id)
      omega
    · obtain ⟨live, current⟩ := Model.ownsObjective_iff.1 owned
      rw [advances.id] at live
      have before := holds.generation live
      have own : s.model.ownsObjective objective.model objective.generation = true :=
        Model.ownsObjective_iff.2 ⟨live, by omega⟩
      exact describes own owned (call.run_revises sound listed stays) advances.columns
        (holds.describes own)

theorem Holds.of_spares (holds : w.Holds objective s) (sound : s.Sound) (listed : s.model.Listed)
    (spares : ∀ e ∈ call.edits s, e.SparesObjective) : w.Holds objective (call.run s).2 := by
  apply holds.of_describes sound listed holds.copy
  intro _ _ revises columns describes
  exact describes.of_spares revises.body columns spares

theorem next_of_spares {r : Request} (spares : r.sparesObjective = true) (a : Answer) :
    w.next (.request r) a = w := by
  cases r with
  | addWithColumn | addObjective | replaceObjective | setLinearCoefficient => cases spares
  | _ => rfl

/-- A request on the current objective is one on the watched objective, if that is current. -/
theorem Holds.isOn (holds : w.Holds objective s) {o : Objective}
    (current : s.model.ownsObjective o.model o.generation = true)
    (own : s.model.ownsObjective objective.model objective.generation = true) : w.IsOn o := by
  obtain ⟨model, generation⟩ := Model.ownsObjective_iff.1 current
  obtain ⟨live, latest⟩ := Model.ownsObjective_iff.1 own
  exact ⟨model.trans (live.symm.trans holds.copy.model.symm),
    generation.trans (latest.symm.trans holds.copy.generation.symm)⟩

/-- A new objective leaves the watched one behind. -/
theorem Holds.addObjective (holds : w.Holds objective s) (sound : s.Sound) (listed : s.model.Listed)
    {expr : Expr} {sense : Sense}
    (h : (Request.addObjective expr sense).carryOut s.model = .ok a n) :
    w.Holds objective ((Call.request (.addObjective expr sense)).run s).2 := by
  apply holds.of_describes sound listed holds.copy
  intro before after
  obtain ⟨o, done, -⟩ := Request.of_answer h
  obtain ⟨-, -, same⟩ := Model.addObjective_ok done
  rw [Call.run_ok h, same] at after
  have older := (Model.ownsObjective_iff.1 before).2
  have newer := (Model.ownsObjective_iff.1 after).2
  rw [Model.generation_synced, older] at newer
  exact absurd newer (Nat.ne_of_lt (Nat.lt_succ_self _))

theorem Holds.replaceObjective (holds : w.Holds objective s) (sound : s.Sound)
    (listed : s.model.Listed) {o : Objective} {expr : Expr}
    (h : (Request.replaceObjective o expr).carryOut s.model = .ok a n)
    (through : (Call.request (.replaceObjective o expr)).EditsThrough w a) :
    (w.next (.request (.replaceObjective o expr)) a).Holds objective
      ((Call.request (.replaceObjective o expr)).run s).2 := by
  have edits := Call.edits_ok h
  obtain ⟨after, done, rfl⟩ := Request.of_answer h
  obtain ⟨current, owned, same, -⟩ := Model.replaceObjective_ok done
  by_cases on : w.IsOn o
  · cases through on
    rw [next, if_pos on, same]
    refine holds.of_describes sound listed
      ⟨holds.copy.model, holds.copy.generation, holds.copy.sense⟩ fun _ _ revises columns _ => ?_
    rw [edits] at revises
    exact describes_start owned (Model.ownsObjective_iff.1 current).1 sound.matrix revises.body columns
  · rw [next, if_neg on]
    apply holds.of_describes sound listed holds.copy
    intro before
    exact absurd (holds.isOn current before) on

theorem Holds.setLinearCoefficient (holds : w.Holds objective s) (sound : s.Sound)
    (listed : s.model.Listed) {o : Objective} {v : Variable} {c : Float}
    (h : (Request.setLinearCoefficient o v c).carryOut s.model = .ok a n)
    (through : (Call.request (.setLinearCoefficient o v c)).EditsThrough w a) :
    (w.next (.request (.setLinearCoefficient o v c)) a).Holds objective
      ((Call.request (.setLinearCoefficient o v c)).run s).2 := by
  have edits := Call.edits_ok h
  obtain ⟨after, done, rfl⟩ := Request.of_answer h
  obtain ⟨current, owned, same, -⟩ := Model.setLinearCoefficient_ok done
  by_cases on : w.IsOn o
  · cases through on
    have live := (Model.column_live owned).trans (Model.ownsObjective_iff.1 current).1.symm
    rw [next, if_pos on, same]
    refine holds.of_describes sound listed
      ⟨holds.copy.model, holds.copy.generation, holds.copy.sense⟩
      fun _ _ revises columns describes => ?_
    rw [edits] at revises
    exact describes_setCoefficient describes sound.matrix live (Model.column_within owned)
      revises.body columns
  · rw [next, if_neg on]
    apply holds.of_describes sound listed holds.copy
    intro before
    exact absurd (holds.isOn current before) on

theorem Holds.addWithColumn (holds : w.Holds objective s) (sound : s.Sound)
    (listed : s.model.Listed) {column : Column} {lower upper : Float} {domain : Domain}
    {name : Option String}
    (h : (Request.addWithColumn column lower upper domain name).carryOut s.model = .ok a n) :
    (w.next (.request (.addWithColumn column lower upper domain name)) a).Holds objective
      ((Call.request (.addWithColumn column lower upper domain name)).run s).2 := by
  have edits := Call.edits_ok h
  obtain ⟨v, done, rfl⟩ := Request.of_answer h
  obtain ⟨-, -, same, -⟩ := Model.addWithColumn_ok done
  dsimp only [next]
  rw [same]
  dsimp only
  by_cases live : s.model.id = w.objective.model
  · rw [if_pos live]
    refine holds.of_describes sound listed holds.copy fun _ _ revises columns describes => ?_
    rw [edits] at revises
    exact describes_addColumn describes sound.matrix revises.body columns
  · rw [if_neg live]
    apply holds.of_describes sound listed holds.copy
    intro before
    have id := (Model.ownsObjective_iff.1 before).1
    exact absurd (id.symm.trans holds.copy.model.symm) live

theorem holds_run (call : Call) (through : call.EditsThrough w (call.run s).1) (sound : s.Sound)
    (listed : s.model.Listed) (holds : w.Holds objective s) :
    (w.next call (call.run s).1).Holds objective (call.run s).2 := by
  cases call with
  | request r =>
    cases result : r.carryOut s.model with
    | error cause n =>
      have answer : ((Call.request r).run s).1 = .failed cause :=
        congrArg Prod.fst (Call.run_error result)
      have same : w.next (.request r) (.failed cause) = w := by cases r <;> rfl
      rw [answer, same]
      apply holds.of_spares sound listed
      rw [Call.edits_error result]
      exact List.forall_mem_nil _
    | ok a n =>
      have answer : ((Call.request r).run s).1 = a := congrArg Prod.fst (Call.run_ok result)
      rw [answer] at through ⊢
      cases spares : r.sparesObjective with
      | true =>
        rw [next_of_spares spares]
        apply holds.of_spares sound listed
        rw [Call.edits_ok result]
        exact Request.spares_edits spares
      | false =>
        cases r with
        | addObjective => exact holds.addObjective sound listed result
        | replaceObjective => exact holds.replaceObjective sound listed result through
        | setLinearCoefficient => exact holds.setLinearCoefficient sound listed result through
        | addWithColumn => exact holds.addWithColumn sound listed result
        | _ => cases spares
  | _ => exact holds.of_spares sound listed (List.forall_mem_nil _)

end Installed

namespace Session

variable {s issued : Session} {w : Installed} {objective : Objective} {before after : List Call}

def installed : List Call → Session → Installed → Installed
  | [], _, w => w
  | call :: calls, s, w => installed calls (call.run s).2 (w.next call (call.run s).1)

/-- Whatever a list of calls changes of an objective is changed through the current handle. -/
def EditedThrough : List Call → Session → Installed → Prop
  | [], _, _ => True
  | call :: calls, s, w => call.EditsThrough w (call.run s).1 ∧
      EditedThrough calls (call.run s).2 (w.next call (call.run s).1)

theorem installed_after (through : s.EditedThrough after w) (sound : s.Sound)
    (listed : s.model.Listed) (holds : w.Holds objective s) :
    (s.installed after w).Holds objective (s.after after) := by
  induction after generalizing s w with
  | nil => exact holds
  | cons call calls ih =>
    obtain ⟨first, rest⟩ := through
    exact ih rest (call.sound_run sound) (call.listed_run sound listed)
      (Installed.holds_run call first sound listed holds)

theorem installed_addObjective {expr : Expr} {sense : Sense} (sound : s.Sound)
    (listed : s.model.Listed)
    (h : (Call.request (.addObjective expr sense)).run s = (.objective objective, issued)) :
    objective.sense = sense ∧ issued.Sound ∧ issued.model.Listed ∧
      (Installed.start objective).Holds objective issued := by
  have sound' := Call.sound_run (.request (.addObjective expr sense)) sound
  have listed' := Call.listed_run (.request (.addObjective expr sense)) sound listed
  rw [h] at sound' listed'
  obtain ⟨n, result, rfl⟩ := Call.carryOut_of_run h nofun
  have takes := (Request.takes _ listed result).revises
  obtain ⟨o, done, given⟩ := Request.of_answer result
  cases given
  obtain ⟨owned, rfl, same⟩ := Model.addObjective_ok done
  have generation : n.generation = s.model.generation + 1 := by
    rw [same, Model.generation_synced]
  have columns : s.model.matrix.columnCount ≤ n.matrix.columnCount := by
    rw [same, Model.columnCount_synced]
    exact Nat.le_refl _
  refine ⟨rfl, sound', listed', ⟨rfl, rfl, rfl⟩, ?_, ?_, ?_⟩
  · rw [← takes.id]
    exact sound'.drawn
  · intro _
    exact generation.ge
  · intro _
    exact Installed.describes_start owned rfl sound.matrix takes.body columns

/-- The current handle on an objective describes what is installed, once the queue is carried out: the
sense, the constant, and the coefficient of every column. -/
theorem objective_describes_installed {workspace : Workspace} {model : String} {env : Environment}
    {expr : Expr} {sense : Sense}
    (given : (Call.request (.addObjective expr sense)).run
      ((create workspace model env).after before) = (.objective objective, issued))
    (through : issued.EditedThrough after (.start objective))
    (live : (issued.after after).model.ownsObjective objective.model objective.generation = true) :
    let w := issued.installed after (.start objective)
    let flushed := (issued.after after).model.matrix.flush.body
    w.objective.IsCopyOf objective ∧ w.objective.sense = sense ∧ flushed.sense = w.objective.sense ∧
      flushed.constant = w.objective.expr.constant ∧
      (∀ j c, w.objective.expr.terms.get? ⟨objective.model, j⟩ = some c →
        j < flushed.columns.length) ∧
      ∀ j, (w.coefficient j).isNaN = false →
        (flushed.objectiveCoefficient j == w.coefficient j) = true := by
  intro w flushed
  have start := sound_create workspace model env
  obtain ⟨same, sound, listed, holds⟩ := installed_addObjective (sound_after before start)
    (listed_after before start rfl) given
  have held := installed_after through sound listed holds
  have describes := held.describes live
  have count : flushed.columns.length = (issued.after after).model.matrix.columnCount :=
    (sound_after after sound).matrix.columnCount
  refine ⟨held.copy, held.copy.sense.trans same, describes.sense, describes.constant, ?_, ?_⟩
  · intro j c present
    rw [count]
    rw [← held.copy.model] at present
    exact describes.within j c present
  · intro j number
    exact (describes.coefficients j).beq number

def pricedVariable : Variable := ⟨⟨0, 0⟩, 0, 4, .continuous, some "x"⟩

/-- A session with lazy updates in which the variable waits. -/
def pricedSession : Session :=
  (create .empty "test" ⟨.none, .default⟩).after
    [.request (.setInt .updateMode 0), .request (.addVariable 0 4 .continuous (some "x"))]

def firstObjective : Objective := ⟨0, 1, .maximize, .term pricedVariable 2⟩

/-- The objective is replaced, then one column brings a part of it and another does not. -/
def pricingCalls : List Call :=
  [.request (.replaceObjective firstObjective (.term pricedVariable 5)),
    .request (.addWithColumn (.ofObjective ⟨0, 1, 3⟩) 0 1 .continuous none),
    .request (.addVariable 0 1 .continuous none)]

theorem objective_describes_installed_pricingCalls :
    let call := Call.request (.addObjective (.term pricedVariable 2) .maximize)
    let issued := (call.run pricedSession).2
    call.run pricedSession = (.objective firstObjective, issued) ∧
      issued.EditedThrough pricingCalls (.start firstObjective) ∧
      (issued.after pricingCalls).model.ownsObjective 0 1 = true ∧
      let w := issued.installed pricingCalls (.start firstObjective)
      let flushed := (issued.after pricingCalls).model.matrix.flush.body
      flushed.sense = .maximize ∧ ∀ j, (w.coefficient j).isNaN = false →
        (flushed.objectiveCoefficient j == w.coefficient j) = true := by
  intro call issued
  have owned : pricedSession.model.ownsExpr (.term pricedVariable 2) := by
    intro t listed
    cases List.mem_singleton.1 listed
    rfl
  have given : call.run pricedSession = (.objective firstObjective, issued) := by
    obtain ⟨n, added⟩ := Model.addObjective_succeeds owned .maximize
    have result : (Request.addObjective (.term pricedVariable 2) .maximize).carryOut
        pricedSession.model = .ok (.objective firstObjective) n :=
      bind_ok_iff.2 ⟨_, _, added, rfl⟩
    have ran : call.run pricedSession = (.objective firstObjective, { pricedSession with model := n }) :=
      Call.run_ok result
    have left : issued = { pricedSession with model := n } := congrArg Prod.snd ran
    rw [left]
    exact ran
  have through : issued.EditedThrough pricingCalls (.start firstObjective) :=
    ⟨fun _ => rfl, trivial, trivial, trivial⟩
  have live : (issued.after pricingCalls).model.ownsObjective 0 1 = true := by decide +kernel
  obtain ⟨-, sense, installed, -, -, coefficients⟩ :=
    objective_describes_installed given through live
  exact ⟨given, through, live, installed.trans sense, coefficients⟩

end Session

end LinProg
