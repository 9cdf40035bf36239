import Mathlib

/-!
# Operations that may fail

How an operation ends follows from how its parts end: `bind_ok_iff`, `bind_error_iff`.  `Lockstep`
compares two runs of one operation, from different states.
-/

namespace LinProg.Operation

variable {ε σ α β γ : Type}

/-! ### The end of an operation -/

section Ends

variable {f : EStateM ε σ α} {g : α → EStateM ε σ β} {s t : σ} {a : α} {b : β} {e : ε}

theorem bind_ok_iff : (f >>= g) s = .ok b t ↔ ∃ a m, f s = .ok a m ∧ g a m = .ok b t := by
  show EStateM.bind f g s = _ ↔ _
  unfold EStateM.bind
  cases f s with
  | ok a m =>
    constructor
    · exact fun h => ⟨a, m, rfl, h⟩
    · rintro ⟨_, _, first, second⟩
      cases first
      exact second
  | error e m =>
    constructor
    · exact fun h => nomatch h
    · rintro ⟨_, _, first, _⟩
      cases first

theorem bind_error_iff :
    (f >>= g) s = .error e t ↔ f s = .error e t ∨ ∃ a m, f s = .ok a m ∧ g a m = .error e t := by
  show EStateM.bind f g s = _ ↔ _
  unfold EStateM.bind
  cases f s with
  | ok a m =>
    constructor
    · exact fun h => .inr ⟨a, m, rfl, h⟩
    · rintro (first | ⟨_, _, first, second⟩)
      · cases first
      · cases first
        exact second
  | error e' m =>
    constructor
    · intro h
      cases h
      exact .inl rfl
    · rintro (first | ⟨_, _, first, _⟩)
      · cases first
        rfl
      · cases first

theorem pure_ok_iff : (pure a : EStateM ε σ α) s = .ok b' t ↔ a = b' ∧ s = t := by
  constructor
  · intro h
    cases h
    exact ⟨rfl, rfl⟩
  · rintro ⟨rfl, rfl⟩
    rfl

theorem throw_ok_iff : (throw e : EStateM ε σ α) s = .ok a t ↔ False :=
  iff_of_false (fun h => nomatch h) id

theorem get_ok_iff {m : σ} : (get : EStateM ε σ σ) s = .ok m t ↔ s = m ∧ s = t := by
  constructor
  · intro h
    cases h
    exact ⟨rfl, rfl⟩
  · rintro ⟨rfl, same⟩
    rw [← same]
    rfl

theorem modify_ok_iff {h : σ → σ} {u : PUnit} :
    (modify h : EStateM ε σ PUnit) s = .ok u t ↔ h s = t := by
  constructor
  · intro same
    cases same
    rfl
  · rintro rfl
    rfl

theorem set_ok_iff {m : σ} {u : PUnit} : (set m : EStateM ε σ PUnit) s = .ok u t ↔ m = t := by
  constructor
  · intro same
    cases same
    rfl
  · rintro rfl
    rfl

theorem guard_ok_iff {p : Prop} [Decidable p] {u : PUnit} :
    (if p then pure ⟨⟩ else throw e : EStateM ε σ PUnit) s = .ok u t ↔ s = t ∧ p := by
  split
  · rename_i holds
    exact pure_ok_iff.trans ⟨fun h => ⟨h.2, holds⟩, fun h => ⟨rfl, h.1⟩⟩
  · rename_i fails
    exact throw_ok_iff.trans (iff_of_false id fun h => fails h.2)

end Ends

/-! ### The end of a reading, which has no state -/

theorem reading_bind_ok_iff {f : Except ε α} {g : α → Except ε β} {b : β} :
    f >>= g = .ok b ↔ ∃ a, f = .ok a ∧ g a = .ok b := by
  cases f with
  | ok a =>
    refine ⟨fun h => ⟨a, rfl, h⟩, ?_⟩
    rintro ⟨_, first, second⟩
    cases first
    exact second
  | error e => exact iff_of_false (fun h => nomatch h) fun ⟨_, first, _⟩ => nomatch first

theorem reading_map_ok_iff {f : Except ε α} {g : α → β} {b : β} :
    f.map g = .ok b ↔ ∃ a, f = .ok a ∧ g a = b := by
  cases f with
  | ok a =>
    refine ⟨fun h => ⟨a, rfl, Except.ok.inj h⟩, ?_⟩
    rintro ⟨_, first, rfl⟩
    cases first
    rfl
  | error e => exact iff_of_false (fun h => nomatch h) fun ⟨_, first, _⟩ => nomatch first

/-! ### Checks -/

def final : EStateM.Result ε σ α → σ
  | .ok _ s => s
  | .error _ s => s

/-- What is made of the value does not matter for the state. -/
theorem final_bind_pure (f : EStateM ε σ α) (g : α → β) (s : σ) :
    final ((f >>= fun a => pure (g a)) s) = final (f s) := by
  show final (EStateM.bind f _ s) = _
  unfold EStateM.bind
  cases f s <;> rfl

/-- The operation leaves every state as it is. -/
def Keeps (f : EStateM ε σ α) : Prop := ∀ s, final (f s) = s

/-- When the operation fails it leaves the state as it is. -/
def Harmless (f : EStateM ε σ α) : Prop := ∀ s e t, f s = .error e t → t = s

theorem Keeps.of_ok {f : EStateM ε σ α} (keeps : Keeps f) {s t : σ} {a : α}
    (h : f s = .ok a t) : t = s := by
  have same := keeps s
  rw [h] at same
  exact same

theorem Harmless.of_error {f : EStateM ε σ α} (harmless : Harmless f) {s t : σ} {e : ε}
    (h : f s = .error e t) : t = s := harmless s e t h

theorem Keeps.harmless {f : EStateM ε σ α} (keeps : Keeps f) : Harmless f := by
  intro s e t h
  have same := keeps s
  rw [h] at same
  exact same

theorem Keeps.pure (a : α) : Keeps (Pure.pure a : EStateM ε σ α) := fun _ => rfl

theorem Keeps.throw (e : ε) : Keeps (MonadExcept.throw e : EStateM ε σ α) := fun _ => rfl

theorem Keeps.throw_bind (e : ε) (g : α → EStateM ε σ β) :
    Keeps (MonadExcept.throw e >>= g) := fun _ => rfl

theorem Keeps.get : Keeps (MonadState.get : EStateM ε σ σ) := fun _ => rfl

theorem Keeps.bind {f : EStateM ε σ α} {g : α → EStateM ε σ β} (first : Keeps f)
    (second : ∀ a, Keeps (g a)) : Keeps (f >>= g) := by
  intro s
  cases h : (f >>= g) s with
  | ok b t =>
    obtain ⟨a, m, one, two⟩ := bind_ok_iff.1 h
    exact ((second a).of_ok two).trans (first.of_ok one)
  | error e t =>
    rcases bind_error_iff.1 h with one | ⟨a, m, one, two⟩
    · exact first.harmless.of_error one
    · exact ((second a).harmless.of_error two).trans (first.of_ok one)

theorem Keeps.guard {p : Prop} [Decidable p] (e : ε) :
    Keeps (if p then Pure.pure ⟨⟩ else MonadExcept.throw e : EStateM ε σ PUnit) := by
  intro s
  split <;> rfl

theorem Keeps.forM {f : α → EStateM ε σ PUnit} (each : ∀ a, Keeps (f a)) (as : List α) :
    Keeps (as.forM f) := by
  induction as with
  | nil => exact .pure _
  | cons a as ih => exact .bind (each a) fun _ => ih

theorem Keeps.mapM {f : α → EStateM ε σ β} (each : ∀ a, Keeps (f a)) (as : List α) :
    Keeps (as.mapM f) := by
  induction as with
  | nil => exact .pure _
  | cons a as ih =>
    rw [List.mapM_cons]
    exact .bind (each a) fun _ => .bind ih fun _ => .pure _

theorem Keeps.bind_harmless {f : EStateM ε σ α} {g : α → EStateM ε σ β} (first : Keeps f)
    (second : ∀ a, Harmless (g a)) : Harmless (f >>= g) := by
  intro s e t h
  rcases bind_error_iff.1 h with one | ⟨a, m, one, two⟩
  · exact first.harmless.of_error one
  · exact ((second a).of_error two).trans (first.of_ok one)

/-- The operation never fails. -/
def Succeeds (f : EStateM ε σ α) : Prop := ∀ s e t, f s ≠ .error e t

theorem Succeeds.harmless {f : EStateM ε σ α} (succeeds : Succeeds f) : Harmless f :=
  fun s e t h => absurd h (succeeds s e t)

theorem Succeeds.pure (a : α) : Succeeds (Pure.pure a : EStateM ε σ α) := fun _ _ _ h => nomatch h

theorem Succeeds.get : Succeeds (MonadState.get : EStateM ε σ σ) :=
  fun _ _ _ h => nomatch h

theorem Succeeds.set (s : σ) : Succeeds (MonadStateOf.set s : EStateM ε σ PUnit) :=
  fun _ _ _ h => nomatch h

theorem Succeeds.modify (h : σ → σ) : Succeeds (modify h : EStateM ε σ PUnit) :=
  fun _ _ _ h => nomatch h

theorem Succeeds.bind {f : EStateM ε σ α} {g : α → EStateM ε σ β} (first : Succeeds f)
    (second : ∀ a, Succeeds (g a)) : Succeeds (f >>= g) := by
  intro s e t h
  rcases bind_error_iff.1 h with one | ⟨a, m, -, two⟩
  · exact first _ _ _ one
  · exact second a _ _ _ two

theorem Harmless.bind_succeeds {f : EStateM ε σ α} {g : α → EStateM ε σ β} (first : Harmless f)
    (second : ∀ a, Succeeds (g a)) : Harmless (f >>= g) := by
  intro s e t h
  rcases bind_error_iff.1 h with one | ⟨a, m, -, two⟩
  · exact first.of_error one
  · exact absurd two (second a _ _ _)

/-- A run over a list that leaves the state as it is succeeds if each of its steps does. -/
theorem forM_ok_iff {f : α → EStateM ε σ PUnit} (each : ∀ a, Keeps (f a)) {as : List α} {s t : σ}
    {u : PUnit} : as.forM f s = .ok u t ↔ s = t ∧ ∀ a ∈ as, f a s = .ok ⟨⟩ s := by
  induction as generalizing s with
  | nil =>
    refine pure_ok_iff.trans ⟨fun h => ⟨h.2, fun _ member => nomatch member⟩, fun h => ⟨rfl, h.1⟩⟩
  | cons a as ih =>
    refine bind_ok_iff.trans ⟨?_, ?_⟩
    · rintro ⟨u, m, one, rest⟩
      cases (each a).of_ok one
      obtain ⟨same, others⟩ := ih.1 rest
      exact ⟨same, List.forall_mem_cons.2 ⟨one, others⟩⟩
    · rintro ⟨rfl, all⟩
      obtain ⟨one, others⟩ := List.forall_mem_cons.1 all
      exact ⟨⟨⟩, s, one, ih.2 ⟨rfl, others⟩⟩

theorem mapM_ok_iff {f : α → EStateM ε σ β} {r : α → β} (each : ∀ a, Keeps (f a))
    (value : ∀ {a s b t}, f a s = .ok b t → b = r a) {as : List α} {s t : σ} {bs : List β} :
    as.mapM f s = .ok bs t ↔ s = t ∧ bs = as.map r ∧ ∀ a ∈ as, f a s = .ok (r a) s := by
  induction as generalizing s bs with
  | nil =>
    refine pure_ok_iff.trans ⟨?_, ?_⟩
    · rintro ⟨rfl, rfl⟩
      exact ⟨rfl, rfl, fun _ member => nomatch member⟩
    · rintro ⟨rfl, rfl, -⟩
      exact ⟨rfl, rfl⟩
  | cons a as ih =>
    rw [List.mapM_cons]
    refine bind_ok_iff.trans ⟨?_, ?_⟩
    · rintro ⟨b, m, one, rest⟩
      cases (each a).of_ok one
      cases value one
      obtain ⟨bs', m, others, last⟩ := bind_ok_iff.1 rest
      obtain ⟨rfl, rfl⟩ := pure_ok_iff.1 last
      obtain ⟨rfl, rfl, all⟩ := ih.1 others
      exact ⟨rfl, rfl, List.forall_mem_cons.2 ⟨one, all⟩⟩
    · rintro ⟨rfl, rfl, all⟩
      obtain ⟨one, others⟩ := List.forall_mem_cons.1 all
      exact ⟨r a, s, one, bind_ok_iff.2 ⟨as.map r, s, ih.2 ⟨rfl, rfl, others⟩, rfl⟩⟩

/-! ### Two runs of one operation -/

/-- Two runs end alike: with the same value or the same error, in related states. -/
def Alike (Q : σ → σ → Prop) : EStateM.Result ε σ α → EStateM.Result ε σ α → Prop
  | .ok a s, .ok b t => a = b ∧ Q s t
  | .error e s, .error f t => e = f ∧ Q s t
  | _, _ => False

/-- Runs of the operation from related states end alike. -/
def Lockstep (P Q : σ → σ → Prop) (f : EStateM ε σ α) : Prop :=
  ∀ s t, P s t → Alike Q (f s) (f t)

variable {P Q R : σ → σ → Prop}

theorem Alike.mono (weaker : ∀ s t, P s t → Q s t) {x y : EStateM.Result ε σ α}
    (h : Alike P x y) : Alike Q x y := by
  cases x <;> cases y
  · exact ⟨h.1, weaker _ _ h.2⟩
  · exact h
  · exact h
  · exact ⟨h.1, weaker _ _ h.2⟩

namespace Lockstep

theorem mono {P' Q' : σ → σ → Prop} {f : EStateM ε σ α} (h : Lockstep P Q f)
    (stronger : ∀ s t, P' s t → P s t) (weaker : ∀ s t, Q s t → Q' s t) : Lockstep P' Q' f :=
  fun s t related => (h s t (stronger s t related)).mono weaker

theorem pure (a : α) : Lockstep P P (Pure.pure a : EStateM ε σ α) :=
  fun _ _ related => ⟨rfl, related⟩

theorem throw (e : ε) : Lockstep P P (MonadExcept.throw e : EStateM ε σ α) :=
  fun _ _ related => ⟨rfl, related⟩

theorem throw_bind (e : ε) (g : α → EStateM ε σ β) :
    Lockstep P P (MonadExcept.throw e >>= g) := fun _ _ related => ⟨rfl, related⟩

theorem change {h : σ → σ} (related : ∀ s t, P s t → Q (h s) (h t)) :
    Lockstep P Q (modify h : EStateM ε σ PUnit) :=
  fun s t start => ⟨rfl, related s t start⟩

/-- After a first part whose states stay related, a failure included. -/
theorem bind' {f : EStateM ε σ α} {g : α → EStateM ε σ β} (first : Lockstep P Q f)
    (second : ∀ a, Lockstep Q R (g a)) (weaker : ∀ s t, Q s t → R s t) :
    Lockstep P R (f >>= g) := by
  intro s t related
  have one := first s t related
  show Alike R (EStateM.bind f g s) (EStateM.bind f g t)
  unfold EStateM.bind
  cases left : f s with
  | ok a m =>
    cases right : f t with
    | ok b n =>
      rw [left, right] at one
      obtain ⟨rfl, next⟩ := one
      exact second a m n next
    | error e n =>
      rw [left, right] at one
      exact one.elim
  | error e m =>
    cases right : f t with
    | ok b n =>
      rw [left, right] at one
      exact one.elim
    | error e' n =>
      rw [left, right] at one
      exact ⟨one.1, weaker _ _ one.2⟩

theorem bind {f : EStateM ε σ α} {g : α → EStateM ε σ β} (first : Lockstep P P f)
    (second : ∀ a, Lockstep P P (g a)) : Lockstep P P (f >>= g) :=
  bind' first second fun _ _ related => related

/-- What an operation does with the state it gets may depend on what related states share. -/
theorem get_bind {g : σ → EStateM ε σ β} (same : ∀ s t, P s t → Alike Q (g s s) (g t t)) :
    Lockstep P Q (get >>= g) := same

theorem forM {f : α → EStateM ε σ PUnit} (each : ∀ a, Lockstep P P (f a)) (as : List α) :
    Lockstep P P (as.forM f) := by
  induction as with
  | nil => exact .pure _
  | cons a as ih => exact .bind (each a) fun _ => ih

theorem mapM {f : α → EStateM ε σ β} (each : ∀ a, Lockstep P P (f a)) (as : List α) :
    Lockstep P P (as.mapM f) := by
  induction as with
  | nil => exact .pure _
  | cons a as ih =>
    rw [List.mapM_cons]
    exact .bind (each a) fun _ => .bind ih fun _ => .pure _

end Lockstep

end LinProg.Operation
