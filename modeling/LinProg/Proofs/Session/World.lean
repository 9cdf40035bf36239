import Mathlib
import LinProg.Proofs.Session.Reference

/-!
# Worlds

Models that share a workspace come and go, and calls on them interleave.  A reference that a model
handed out is accepted by that model until it imports another one, or until the objective is replaced
that the reference is to, and never by any other model.
-/

namespace LinProg

/-- A workspace with the models made so far, less those that are dropped. -/
structure World where
  workspace : Workspace
  places : List (Option Model)

inductive Act where
  | create (name : String) (env : Environment)
  | drop (place : Nat)
  | call (place : Nat) (call : Call)

namespace Act

/-- The act has read a model file in the place of the model at a place. -/
def importsAt (i : Nat) : Act → Option Answer → Bool
  | call place c, some a => decide (place = i) && c.imports a
  | _, _ => false

def installsAt (i : Nat) : Act → Option Answer → Bool
  | call place c, some a => decide (place = i) && c.installs a
  | _, _ => false

end Act

namespace World

/-- The model at a place, unless it is dropped. -/
def model? (w : World) (i : Nat) : Option Model := w.places[i]?.join

/-- Carries out an act; returns the answer to a call. -/
def run : Act → World → Option Answer × World
  | .create name env, w =>
    let (m, workspace) := w.workspace.createModel name env
    (none, ⟨workspace, w.places ++ [some m]⟩)
  | .drop i, w => (none, { w with places := w.places.set i none })
  | .call i c, w =>
    match w.model? i with
    | some m =>
      let (a, s) := c.run ⟨w.workspace, m⟩
      (some a, ⟨s.workspace, w.places.set i (some s.model)⟩)
    | none => (none, w)

def after (acts : List Act) (w : World) : World := acts.foldl (fun w act => (w.run act).2) w

def history : List Act → World → List (Act × Option Answer)
  | [], _ => []
  | act :: acts, w => (act, (w.run act).1) :: history acts (w.run act).2

/-- Whether the model at a place imports another one in the course of some acts. -/
def importedAt (i : Nat) (acts : List Act) (w : World) : Bool :=
  (w.history acts).any fun e => e.1.importsAt i e.2

def installedAt (i : Nat) (acts : List Act) (w : World) : Bool :=
  (w.history acts).any fun e => e.1.installsAt i e.2

variable {w : World} {i j : Nat} {m n : Model} {h : Reference}

/-! ### Places -/

theorem model?_eq_some_iff : w.model? i = some m ↔ w.places[i]? = some (some m) := by
  unfold model?
  cases w.places[i]? with
  | none => simp
  | some place => simp

theorem lt_of_model? (live : w.model? i = some m) : i < w.places.length :=
  (List.getElem?_eq_some_iff.1 (model?_eq_some_iff.1 live)).1

theorem model?_create (name : String) (env : Environment) (w : World) (i : Nat) :
    (w.run (.create name env)).2.model? i =
      if i = w.places.length then some (.create w.workspace.nextId name env) else w.model? i := by
  unfold run model?
  show (w.places ++ [some (Model.create w.workspace.nextId name env)])[i]?.join = _
  by_cases here : i = w.places.length
  · rw [if_pos here, here]
    simp
  · rw [if_neg here]
    rcases Nat.lt_or_gt_of_ne here with before | beyond
    · rw [List.getElem?_append_left before]
    · rw [List.getElem?_eq_none (by simp; omega), List.getElem?_eq_none (by omega)]

theorem model?_drop (place : Nat) (w : World) (i : Nat) :
    (w.run (.drop place)).2.model? i = if place = i then none else w.model? i := by
  unfold run model?
  dsimp only
  rw [List.getElem?_set]
  split
  · split <;> rfl
  · rfl

theorem run_call {place : Nat} {c : Call} (live : w.model? place = some m) :
    w.run (.call place c) = (some (c.run ⟨w.workspace, m⟩).1,
      ⟨(c.run ⟨w.workspace, m⟩).2.workspace,
        w.places.set place (some (c.run ⟨w.workspace, m⟩).2.model)⟩) := by
  simp only [run, live]

theorem run_call_none {place : Nat} {c : Call} (dropped : w.model? place = none) :
    w.run (.call place c) = (none, w) := by
  simp only [run, dropped]

theorem model?_call {place : Nat} {c : Call} (live : w.model? place = some m) (i : Nat) :
    (w.run (.call place c)).2.model? i =
      if place = i then some (c.run ⟨w.workspace, m⟩).2.model else w.model? i := by
  rw [run_call live]
  unfold model?
  dsimp only
  rw [List.getElem?_set, if_pos (lt_of_model? live)]
  split <;> rfl

theorem length_places_run (act : Act) (w : World) :
    w.places.length ≤ (w.run act).2.places.length := by
  cases act with
  | create name env => simp [run]
  | drop place => simp [run]
  | call place c =>
    cases live : w.model? place with
    | none => rw [run_call_none live]
    | some m => simp [run_call live]

/-! ### Identities -/

/-- The models of a world are sound, and no two have the same identity. -/
structure Sound (w : World) : Prop where
  session : ∀ {i m}, w.model? i = some m → (Session.mk w.workspace m).Sound
  listed : ∀ {i m}, w.model? i = some m → m.Listed
  distinct : ∀ {i j m n}, w.model? i = some m → w.model? j = some n → m.id = n.id → i = j

theorem sound_nil (workspace : Workspace) : (World.mk workspace []).Sound where
  session := nofun
  listed := nofun
  distinct := nofun

theorem nextId_le_run (act : Act) (w : World) :
    w.workspace.nextId ≤ (w.run act).2.workspace.nextId := by
  cases act with
  | create name env => exact Nat.le_succ _
  | drop place => exact Nat.le_refl _
  | call place c =>
    cases live : w.model? place with
    | none => rw [run_call_none live]
    | some m =>
      rw [run_call live]
      exact c.nextId_le_run ⟨w.workspace, m⟩

/-- A live model has an identity that the act has drawn for it, or is what became of the model that
was at its place. -/
theorem run_live (sound : w.Sound) {act : Act} (live : (w.run act).2.model? i = some m) :
    (m.id = w.workspace.nextId ∧ (w.model? i = none ∨ act.importsAt i (w.run act).1 = true) ∧
      ∀ j ≠ i, (w.run act).2.model? j = w.model? j) ∨
    (∃ k, w.model? i = some k ∧ act.importsAt i (w.run act).1 = false ∧
      k.Advances (act.installsAt i (w.run act).1) m) := by
  cases act with
  | create name env =>
    rw [model?_create] at live
    split at live
    · rename_i here
      cases live
      refine .inl ⟨rfl, .inl ?_, ?_⟩
      · simp [model?, here]
      · intro j other
        rw [model?_create, if_neg (here ▸ other)]
    · exact .inr ⟨m, live, rfl, .refl m⟩
  | drop place =>
    rw [model?_drop] at live
    split at live
    · cases live
    · exact .inr ⟨m, live, rfl, .refl m⟩
  | call place c =>
    cases before : w.model? place with
    | none =>
      rw [run_call_none before] at live ⊢
      exact .inr ⟨m, live, rfl, .refl m⟩
    | some k =>
      rw [model?_call before] at live
      split at live
      · rename_i here
        cases here
        cases live
        rcases c.run_advances (sound.session before) with
          ⟨imports, id, -, -⟩ | ⟨stays, advances⟩
        · refine .inl ⟨id, .inr ?_, ?_⟩
          · simp [run_call before, Act.importsAt, imports]
          · intro j other
            rw [model?_call before, if_neg other.symm]
        · refine .inr ⟨k, before, ?_, ?_⟩
          · simp [run_call before, Act.importsAt, stays]
          · simpa [run_call before, Act.installsAt] using advances
      · rename_i elsewhere
        refine .inr ⟨m, live, ?_, ?_⟩
        · simp [run_call before, Act.importsAt, elsewhere]
        · have none : Act.installsAt i (.call place c) (w.run (.call place c)).1 = false := by
            simp [run_call before, Act.installsAt, elsewhere]
          rw [none]
          exact .refl m

theorem session_run (sound : w.Sound) {act : Act} (live : (w.run act).2.model? i = some m) :
    (Session.mk (w.run act).2.workspace m).Sound ∧ m.Listed := by
  have untouched (old : w.model? i = some m) :
      (Session.mk (w.run act).2.workspace m).Sound ∧ m.Listed := by
    have before := sound.session old
    exact ⟨⟨before.matrix, before.drawn.trans_le (nextId_le_run act w)⟩, sound.listed old⟩
  cases act with
  | create name env =>
    rw [model?_create] at live
    split at live
    · cases live
      exact ⟨Session.sound_create w.workspace name env, rfl⟩
    · exact untouched live
  | drop place =>
    rw [model?_drop] at live
    split at live
    · cases live
    · exact untouched live
  | call place c =>
    cases before : w.model? place with
    | none =>
      rw [run_call_none before] at live
      exact untouched live
    | some k =>
      rw [model?_call before] at live
      split at live
      · cases live
        have start := sound.session before
        rw [run_call before]
        refine ⟨c.sound_run start, ?_⟩
        rcases c.run_advances start with ⟨-, -, listed, -⟩ | ⟨-, advances⟩
        · exact listed
        · exact advances.listed (sound.listed before)
      · exact untouched live

theorem sound_run (sound : w.Sound) (act : Act) : (w.run act).2.Sound where
  session live := (session_run sound live).1
  listed live := (session_run sound live).2
  distinct := by
    intro i j m n left right same
    -- a drawn identity is above all that were there before
    rcases run_live sound left with ⟨new, -, others⟩ | ⟨k, old, -, advances⟩
    · by_contra different
      have stays := others j (Ne.symm different)
      rw [right] at stays
      have drawn := (sound.session stays.symm).drawn
      rw [← same, new] at drawn
      exact Nat.lt_irrefl _ drawn
    · rcases run_live sound right with ⟨new, -, others⟩ | ⟨k', old', -, advances'⟩
      · have drawn := (sound.session old).drawn
        rw [← advances.id, same, new] at drawn
        exact absurd drawn (Nat.lt_irrefl _)
      · exact sound.distinct old old' (by rw [← advances.id, ← advances'.id, same])

theorem sound_after (sound : w.Sound) (acts : List Act) : (w.after acts).Sound := by
  induction acts generalizing w with
  | nil => exact sound
  | cons act acts ih => exact ih (sound_run sound act)

/-! ### The life of a reference -/

def Holds (w : World) (i : Nat) (h : Reference) : Prop :=
  ∃ m, w.model? i = some m ∧ m.accepts h = true

/-- No model will accept the reference any more. -/
def Gone (w : World) (h : Reference) : Prop :=
  h.model < w.workspace.nextId ∧ ∀ {i m}, w.model? i = some m → m.Outgrew h

/-- There was a model at a place, and it is dropped. -/
def Vacant (w : World) (i : Nat) : Prop := i < w.places.length ∧ w.model? i = none

theorem Vacant.run (vacant : w.Vacant i) (act : Act) : (w.run act).2.Vacant i := by
  refine ⟨vacant.1.trans_le (length_places_run act w), ?_⟩
  cases act with
  | create name env => rw [model?_create, if_neg (Nat.ne_of_lt vacant.1), vacant.2]
  | drop place =>
    rw [model?_drop, vacant.2]
    split <;> rfl
  | call place c =>
    cases before : w.model? place with
    | none =>
      rw [run_call_none before]
      exact vacant.2
    | some k =>
      rw [model?_call before, if_neg, vacant.2]
      rintro rfl
      rw [vacant.2] at before
      cases before

theorem Vacant.after (vacant : w.Vacant i) (acts : List Act) : (w.after acts).Vacant i := by
  induction acts generalizing w with
  | nil => exact vacant
  | cons act acts ih => exact ih (vacant.run act)

theorem Gone.run (gone : w.Gone h) (sound : w.Sound) (act : Act) : (w.run act).2.Gone h := by
  refine ⟨gone.1.trans_le (nextId_le_run act w), ?_⟩
  intro i m live
  rcases run_live sound live with ⟨new, -, -⟩ | ⟨k, old, -, advances⟩
  · apply Model.Outgrew.of_id
    rw [new]
    exact Nat.ne_of_lt gone.1
  · exact (gone.2 old).advances advances

theorem Gone.after (gone : w.Gone h) (sound : w.Sound) (acts : List Act) :
    (w.after acts).Gone h := by
  induction acts generalizing w with
  | nil => exact gone
  | cons act acts ih => exact ih (gone.run sound act) (sound_run sound act)

/-- An act leaves a reference with the model that accepts it, or ends its life: the model imports
another one or is dropped, or the objective of the reference is replaced. -/
theorem Holds.run (holds : w.Holds i h) (sound : w.Sound) (act : Act) :
    ((w.run act).2.Holds i h ∧ act.importsAt i (w.run act).1 = false ∧
      (h.kind = .objective → act.installsAt i (w.run act).1 = false)) ∨
    ((w.run act).2.Gone h ∧ (act.importsAt i (w.run act).1 = true ∨
      (h.kind = .objective ∧ act.installsAt i (w.run act).1 = true) ∨ (w.run act).2.Vacant i)) := by
  obtain ⟨m, before, accepted⟩ := holds
  have id : h.model = m.id := Model.model_of_accepts accepted
  have drawn : h.model < w.workspace.nextId := id ▸ (sound.session before).drawn
  -- the reference is gone as soon as the model at its own place has outgrown it
  have gone (own : ∀ n, (w.run act).2.model? i = some n → n.Outgrew h) : (w.run act).2.Gone h := by
    refine ⟨drawn.trans_le (nextId_le_run act w), ?_⟩
    intro j n live
    by_cases here : j = i
    · exact own n (here ▸ live)
    · rcases run_live sound live with ⟨new, -, -⟩ | ⟨k, old, -, advances⟩
      · exact .of_id (new ▸ Nat.ne_of_lt drawn)
      · refine Model.Outgrew.advances (.of_id fun same => here ?_) advances
        exact sound.distinct old before (same.symm.trans id)
  cases live : (w.run act).2.model? i with
  | none =>
    refine .inr ⟨gone fun n found => ?_, .inr (.inr ⟨?_, live⟩)⟩
    · rw [live] at found
      cases found
    · exact (lt_of_model? before).trans_le (length_places_run act w)
  | some n =>
    rcases run_live sound live with ⟨new, reason, -⟩ | ⟨k, old, stays, advances⟩
    · refine .inr ⟨gone fun k found => ?_, .inl ?_⟩
      · rw [live] at found
        cases found
        exact .of_id (new ▸ Nat.ne_of_lt drawn)
      · rcases reason with empty | imports
        · rw [before] at empty
          cases empty
        · exact imports
    · rw [before] at old
      cases old
      by_cases replaced : h.kind = .objective ∧ act.installsAt i (w.run act).1 = true
      · refine .inr ⟨gone fun k found => ?_, .inr (.inl replaced)⟩
        rw [live] at found
        cases found
        rw [replaced.2] at advances
        exact advances.outgrew accepted replaced.1
      · have current : h.kind = .objective → act.installsAt i (w.run act).1 = false := by
          intro objective
          exact Bool.eq_false_iff.2 fun installs => replaced ⟨objective, installs⟩
        exact .inl ⟨⟨n, live, advances.accepts current accepted⟩, stays, current⟩

theorem accepts_after (holds : w.Holds i h) (sound : w.Sound) (acts : List Act)
    (live : (w.after acts).model? j = some m) :
    m.accepts h = true ↔ j = i ∧ w.importedAt i acts = false ∧
      (h.kind = .objective → w.installedAt i acts = false) := by
  induction acts generalizing w with
  | nil =>
    obtain ⟨k, before, accepted⟩ := holds
    have live : w.model? j = some m := live
    constructor
    · intro accepts
      have same := (Model.model_of_accepts accepts).symm.trans (Model.model_of_accepts accepted)
      exact ⟨sound.distinct live before same, rfl, fun _ => rfl⟩
    · rintro ⟨rfl, -, -⟩
      rw [before] at live
      cases live
      exact accepted
  | cons act acts ih =>
    have next := sound_run sound act
    have imported : w.importedAt i (act :: acts) =
      (act.importsAt i (w.run act).1 || (w.run act).2.importedAt i acts) := rfl
    have installed : w.installedAt i (act :: acts) =
      (act.installsAt i (w.run act).1 || (w.run act).2.installedAt i acts) := rfl
    rw [imported, installed]
    rcases holds.run sound act with ⟨holds', stays, current⟩ | ⟨gone, reason⟩
    · rw [ih holds' next live, stays, Bool.false_or]
      constructor
      · rintro ⟨here, later, objective⟩
        refine ⟨here, later, fun kind => ?_⟩
        rw [current kind, objective kind]
        rfl
      · rintro ⟨here, later, objective⟩
        refine ⟨here, later, fun kind => ?_⟩
        have all := objective kind
        rwa [current kind, Bool.false_or] at all
    · -- what is gone stays so, and the reason for it contradicts the right hand side
      have refused := ((gone.after next acts).2 live).refused
      rw [refused]
      constructor
      · intro accepts
        cases accepts
      · rintro ⟨rfl, stays, objective⟩
        rcases reason with imports | ⟨kind, installs⟩ | vacant
        · rw [imports] at stays
          cases stays
        · have all := objective kind
          rw [installs] at all
          cases all
        · have empty := (vacant.after acts).2
          have live : ((w.run act).2.after acts).model? j = some m := live
          rw [empty] at live
          cases live

/-- Whatever happens before and after a model hands out a reference, the model accepts it until it
imports another one, or until an objective is installed if the reference is to one, and no other
model does.  A request that meets a reference its model does not accept fails on that account. -/
theorem accepted_by_issuer_only (workspace : Workspace) (before later : List Act) {i j : Nat}
    {c : Call} {a : Answer} {h : Reference} {m : Model} :
    let issuing := ((World.mk workspace []).after before).run (.call i c)
    issuing.1 = some a → h ∈ c.issued a → (issuing.2.after later).model? j = some m →
      (m.accepts h = true ↔ j = i ∧ issuing.2.importedAt i later = false ∧
        (h.kind = .objective → issuing.2.installedAt i later = false)) ∧
      ∀ r : Request, r.checked.find? (fun k => !m.accepts k) = some h →
        r.carryOut m = .error (.invalidReference h.kind h.index) m := by
  intro issuing answered issued live
  have start : ((World.mk workspace []).after before).Sound :=
    sound_after (sound_nil workspace) before
  refine ⟨accepts_after ?_ (sound_run start _) later live, ?_⟩
  · cases alive : ((World.mk workspace []).after before).model? i with
    | none =>
      rw [show issuing = _ from run_call_none alive] at answered
      cases answered
    | some k =>
      have ran : issuing = _ := run_call alive (c := c)
      rw [ran] at answered
      cases answered
      have accepted := c.accepts_issued (s := ⟨_, k⟩) (start.listed alive) h issued
      refine ⟨_, ?_, accepted⟩
      rw [model?_call alive, if_pos rfl]
  · intro r first
    exact r.refuses_carryOut m h first

def twoModels : List Act :=
  [.create "left" ⟨.none, .default⟩, .create "right" ⟨.none, .default⟩,
    .call 1 (.request (.addVariable 0 1 .binary (some "x"))), .call 1 (.exportModel "right.lp")]

/-- The left model fails to import and gets an objective, the right one imports. -/
def mixedImports : List Act :=
  [.call 0 (.importModel "absent.lp"), .call 1 (.importModel "right.lp"),
    .call 0 (.request (.addObjective .zero .minimize)), .create "third" ⟨.none, .default⟩, .drop 2]

theorem accepted_by_issuer_only_twoModels :
    let issuing := ((World.mk .empty []).after twoModels).run
      (.call 0 (.request (.addRange 1 .zero 3 (some "r"))))
    let last := issuing.2.after mixedImports
    issuing.2.importedAt 1 mixedImports = true ∧
      ∃ m n, last.model? 0 = some m ∧ last.model? 1 = some n ∧
        m.accepts (.column ⟨0, 0⟩) = true ∧ n.accepts (.column ⟨0, 0⟩) = false ∧
        Request.carryOut (.variableBounds ⟨⟨0, 0⟩, 0, 2, .continuous, some "r_slack"⟩) n =
          .error (.invalidReference .column 0) n := by
  intro issuing last
  have given : issuing.1.map (Call.issued (.request (.addRange 1 .zero 3 (some "r")))) =
      some [.row ⟨0, 0⟩, .column ⟨0, 0⟩] := by decide +kernel
  obtain ⟨a, answered, same⟩ := Option.map_eq_some_iff.1 given
  have issued : Reference.column ⟨0, 0⟩ ∈
      Call.issued (.request (.addRange 1 .zero 3 (some "r"))) a := by
    rw [same]
    simp
  have left : (last.model? 0).isSome = true := by decide +kernel
  have right : (last.model? 1).isSome = true := by decide +kernel
  obtain ⟨m, atLeft⟩ := Option.isSome_iff_exists.1 left
  obtain ⟨n, atRight⟩ := Option.isSome_iff_exists.1 right
  obtain ⟨mine, -⟩ := accepted_by_issuer_only .empty twoModels mixedImports answered issued atLeft
  obtain ⟨other, refuses⟩ :=
    accepted_by_issuer_only .empty twoModels mixedImports answered issued atRight
  have refused : n.accepts (.column ⟨0, 0⟩) = false := by
    rw [← Bool.not_eq_true]
    intro accepted
    exact absurd (other.1 accepted).1 (by decide)
  refine ⟨by decide +kernel, m, n, atLeft, atRight, ?_, refused, ?_⟩
  · exact mine.2 ⟨rfl, by decide +kernel, nofun⟩
  · apply refuses
    simp [Request.checked, refused]

end World

end LinProg
