/-!
# Sparse vectors

A sparse vector is a list of keys with doubles, in strictly increasing order of the keys.  `alter`
is the one way to change an entry; `get?_alter` says what it does to every key.
-/

namespace LinProg

/-- A strict order on keys in which any two different keys are comparable. -/
class Key (κ : Type) [LT κ] : Prop where
  irrefl : ∀ a : κ, ¬a < a
  trans : ∀ {a b c : κ}, a < b → b < c → a < c
  connex : ∀ a b : κ, ¬a < b → a ≠ b → b < a

instance : Key Nat where
  irrefl := Nat.lt_irrefl
  trans := Nat.lt_trans
  connex a b h hne := by omega

instance : Key String where
  irrefl := String.lt_irrefl
  trans := String.lt_trans
  connex _ _ h hne := Classical.byContradiction fun hnlt => hne (String.le_antisymm hnlt h)

structure Sparse (κ : Type) [LT κ] where
  toList : List (κ × Float)
  sorted : toList.Pairwise (fun a b => a.1 < b.1)

namespace Sparse

variable {κ : Type} [LT κ] [DecidableLT κ] [DecidableEq κ] [Key κ]

/-- Changes the entry of a key in a sorted list: `f` sees the present value, if any. -/
def alterList (k : κ) (f : Option Float → Float) : List (κ × Float) → List (κ × Float)
  | [] => [(k, f none)]
  | (k', v) :: rest =>
    if k < k' then (k, f none) :: (k', v) :: rest
    else if k = k' then (k', f (some v)) :: rest
    else (k', v) :: alterList k f rest

omit [Key κ] in
theorem mem_alterList {k : κ} {f : Option Float → Float} {l : List (κ × Float)} {e : κ × Float}
    (h : e ∈ alterList k f l) : e.1 = k ∨ e ∈ l := by
  induction l with
  | nil =>
    rw [alterList, List.mem_singleton] at h
    exact .inl (h ▸ rfl)
  | cons head rest ih =>
    rw [alterList] at h
    split at h
    · rcases List.mem_cons.1 h with rfl | h
      · exact .inl rfl
      · exact .inr h
    · split at h
      · rename_i hk
        rcases List.mem_cons.1 h with rfl | h
        · exact .inl hk.symm
        · exact .inr (List.mem_cons_of_mem _ h)
      · rcases List.mem_cons.1 h with rfl | h
        · exact .inr (List.mem_cons_self ..)
        · exact (ih h).imp_right (List.mem_cons_of_mem _)

theorem sorted_alterList (k : κ) (f : Option Float → Float) {l : List (κ × Float)}
    (h : l.Pairwise (fun a b => a.1 < b.1)) :
    (alterList k f l).Pairwise (fun a b => a.1 < b.1) := by
  induction l with
  | nil => simp [alterList]
  | cons head rest ih =>
    have ⟨hhead, hrest⟩ := List.pairwise_cons.1 h
    rw [alterList]
    split
    · rename_i hlt
      refine List.pairwise_cons.2 ⟨fun e he => ?_, h⟩
      rcases List.mem_cons.1 he with rfl | he
      · exact hlt
      · exact Key.trans hlt (hhead e he)
    · split
      · exact List.pairwise_cons.2 ⟨hhead, hrest⟩
      · rename_i hlt hne
        refine List.pairwise_cons.2 ⟨fun e he => ?_, ih hrest⟩
        rcases mem_alterList he with heq | he
        · exact heq ▸ Key.connex _ _ hlt hne
        · exact hhead e he

def empty : Sparse κ := ⟨[], .nil⟩

def alter (s : Sparse κ) (k : κ) (f : Option Float → Float) : Sparse κ :=
  ⟨alterList k f s.toList, sorted_alterList k f s.sorted⟩

def get? (s : Sparse κ) (k : κ) : Option Float :=
  (s.toList.find? (fun e => e.1 = k)).map (·.2)

def getD (s : Sparse κ) (k : κ) : Float := (s.get? k).getD 0

def set (s : Sparse κ) (k : κ) (x : Float) : Sparse κ := s.alter k fun _ => x

/-- Adds to the value of a key; a new key takes the value as it is. -/
def add (s : Sparse κ) (k : κ) (x : Float) : Sparse κ :=
  s.alter k fun
    | some v => v + x
    | none => x

/-- Adds to the value of a key; a new key starts from zero. -/
def accumulate (s : Sparse κ) (k : κ) (x : Float) : Sparse κ := s.alter k fun v => v.getD 0 + x

def map (s : Sparse κ) (f : Float → Float) : Sparse κ :=
  ⟨s.toList.map fun e => (e.1, f e.2), by
    rw [List.pairwise_map]; exact s.sorted⟩

/-- The keys with an entry, in increasing order. -/
def keys (s : Sparse κ) : List κ := s.toList.map (·.1)

def size (s : Sparse κ) : Nat := s.toList.length

def isEmpty (s : Sparse κ) : Bool := s.toList.isEmpty

/-- Whether two vectors have the same keys with values that compare equal. -/
def sameAs (s t : Sparse κ) : Bool :=
  s.keys = t.keys && (s.toList.zip t.toList).all fun (a, b) => a.2 == b.2

/-- Sets the entries of a list one after the other, so that the last value of a key stays. -/
def ofList (entries : List (κ × Float)) : Sparse κ :=
  entries.foldl (fun s e => s.set e.1 e.2) empty

/-- Accumulates the entries of a list from zero. -/
def accumulateList (entries : List (κ × Float)) : Sparse κ :=
  entries.foldl (fun s e => s.accumulate e.1 e.2) empty

/-! ### Looking up -/

theorem find?_alterList (k : κ) (f : Option Float → Float) (l : List (κ × Float)) (j : κ)
    (h : l.Pairwise (fun a b => a.1 < b.1)) :
    ((alterList k f l).find? (fun e => e.1 = j)).map (·.2) =
      if j = k then some (f ((l.find? (fun e => e.1 = k)).map (·.2)))
      else (l.find? (fun e => e.1 = j)).map (·.2) := by
  induction l with
  | nil => by_cases hj : j = k <;> simp [alterList, hj, Ne.symm]
  | cons head rest ih =>
    obtain ⟨k', v⟩ := head
    have ⟨hhead, hrest⟩ := List.pairwise_cons.1 h
    rw [alterList]
    split
    · rename_i hlt
      have hkk' : k' ≠ k := fun heq => Key.irrefl k (heq ▸ hlt)
      have hrestk : rest.find? (fun e => e.1 = k) = none := by
        rw [List.find?_eq_none]
        intro e he
        simp only [decide_eq_true_eq]
        exact fun heq => Key.irrefl k (heq ▸ Key.trans (a := k) hlt (hhead e he))
      by_cases hj : j = k
      · subst hj; simp [hkk', hrestk]
      · have hj' : ¬k = j := fun heq => hj heq.symm
        simp [hj, hj']
    · split
      · rename_i _ heq
        by_cases hj : j = k
        · simp [hj, heq]
        · have hj' : ¬k' = j := fun h' => hj (h'.symm.trans heq.symm)
          simp [hj, hj']
      · rename_i _ hne
        by_cases hj : k' = j
        · have : ¬j = k := fun h' => hne (h'.symm.trans hj.symm)
          simp [hj, this]
        · have hk : ¬k' = k := fun h' => hne h'.symm
          simp [hj, hk, ih hrest]

/-- Altering one key gives that key the new value and leaves every other key alone. -/
theorem get?_alter (s : Sparse κ) (k : κ) (f : Option Float → Float) (j : κ) :
    (s.alter k f).get? j = if j = k then some (f (s.get? k)) else s.get? j :=
  find?_alterList k f s.toList j s.sorted

end Sparse

end LinProg
