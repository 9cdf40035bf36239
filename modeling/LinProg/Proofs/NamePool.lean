import Mathlib
import LinProg.NamePool
import LinProg.Proofs.Lp.ReadTerms

/-!
# Names that a pool gives out

Names that are given out are names of the LP format, differ from each other and from what was taken:
`claim_spec`, `claimAll_spec`.  A name that was given out is its own stem, so a pool that is asked for
it again gives it out unchanged: `claimAll_of_isStem`.
-/

namespace LinProg

namespace Lp

/-- The reserved words, in small letters. -/
def reservedWords : List String :=
  ["inf", "infinity", "nan", "minimize", "minimise", "minimum", "min", "maximize", "maximise",
    "maximum", "max", "subject to", "such that", "st", "s.t.", "bounds", "bound", "generals",
    "general", "gen", "integers", "binaries", "binary", "bin", "end", "free", "subject", "such"]

/-- What starts with neither a digit nor a mark is no number, unless it is one of three words. -/
theorem isNumber_eq_false {c : Char} {cs : List Char} (digit : c.isDigit = false)
    (marks : c ∉ ['.', '+', '-'])
    (words : String.ofList (Text.lower (c :: cs)) ∉ ["inf", "infinity", "nan"]) :
    Number.isNumber (c :: cs) = false := by
  simp only [List.mem_cons, List.not_mem_nil, or_false, not_or] at marks words
  obtain ⟨point, plus, minus⟩ := marks
  have decimal : Number.readDecimal (c :: cs) = none := by
    unfold Number.readDecimal
    rw [List.takeWhile_cons_of_neg (by simp [digit]), List.dropWhile_cons_of_neg (by simp [digit])]
    dsimp only
    split
    · rename_i same
      exact absurd (List.cons.inj same).1 point
    · rfl
  have magnitude : Number.readMagnitude (c :: cs) = none := by
    unfold Number.readMagnitude
    rw [decimal]
    refine (if_neg (not_or.2 ⟨words.1, words.2.1⟩)).trans ?_
    exact (if_neg words.2.2).trans rfl
  unfold Number.isNumber Number.read
  dsimp only
  rw [if_neg minus, if_neg plus, magnitude]
  rfl

theorem isReserved_eq_false {c : Char} {cs : List Char} (digit : c.isDigit = false)
    (marks : c ∉ ['.', '+', '-']) (other : String.ofList (Text.lower (c :: cs)) ∉ reservedWords) :
    isReserved (c :: cs) = false := by
  have number : Number.isNumber (c :: cs) = false := by
    refine isNumber_eq_false digit marks fun listed => other ?_
    exact List.mem_append_left (reservedWords.drop 3) listed
  unfold reservedWords at other
  simp only [List.mem_cons, List.not_mem_nil, or_false, not_or] at other
  unfold isReserved sectionKeyword isWord
  rw [number]
  simp [other]

end Lp

namespace NamePool

/-! ### Stems -/

/-- The characters of a name that is its own stem. -/
structure IsStem (cs : List Char) : Prop where
  start : cs.head?.all Char.isDigit = false
  chars : ∀ c ∈ cs, isStemChar c = true
  free : Lp.isReserved cs = false

theorem not_mark {c : Char} (h : isStemChar c = true) : c ∉ ['.', '+', '-'] := by
  intro mark
  simp only [List.mem_cons, List.not_mem_nil, or_false] at mark
  rcases mark with rfl | rfl | rfl <;> exact absurd h (by decide)

theorem isStem_v {kept : List Char} (chars : ∀ c ∈ kept, isStemChar c = true) :
    IsStem ('v' :: kept) := by
  refine ⟨rfl, List.forall_mem_cons.2 ⟨rfl, chars⟩, ?_⟩
  refine Lp.isReserved_eq_false (by decide) (by decide) fun listed => ?_
  have heads : ∀ w ∈ Lp.reservedWords, w.toList.head? ≠ some 'v' := by decide
  refine heads _ listed ?_
  rw [String.toList_ofList]
  rfl

theorem isStem_stem (name : String) : IsStem (stem name).toList := by
  have chars : ∀ c ∈ name.toList.filter isStemChar, isStemChar c = true :=
    fun c listed => (List.mem_filter.1 listed).2
  unfold stem
  dsimp only
  split
  · rw [String.toList_ofList]
    exact isStem_v chars
  · rename_i plain
    rw [Bool.or_eq_true, not_or, Bool.not_eq_true, Bool.not_eq_true] at plain
    rw [String.toList_ofList]
    exact ⟨plain.1, chars, plain.2⟩

theorem stem_of_isStem {name : String} (h : IsStem name.toList) : stem name = name := by
  have kept : name.toList.filter isStemChar = name.toList := List.filter_eq_self.2 h.chars
  unfold stem
  dsimp only
  rw [kept, h.start, h.free]
  exact String.ofList_toList

theorem IsStem.isName {name : String} (h : IsStem name.toList) : Lp.IsName name := by
  refine ⟨?_, h.free⟩
  have start := h.start
  have chars := h.chars
  cases cs : name.toList with
  | nil =>
    rw [cs] at start
    cases start
  | cons c rest =>
    rw [cs] at start chars
    have point : c ≠ '.' := fun same =>
      not_mark (chars c List.mem_cons_self) (same ▸ List.mem_cons_self)
    have all : ∀ x ∈ c :: rest, Lp.isNameChar x = true := by
      intro x listed
      have stemChar := chars x listed
      unfold isStemChar at stemChar
      unfold Lp.isNameChar
      rcases Bool.or_eq_true_iff.1 stemChar with letter | underscore
      · rw [letter]
        rfl
      · rw [eq_of_beq underscore]
        decide
    have digit : c.isDigit = false := start
    unfold Lp.isValidName
    dsimp only
    rw [digit, List.all_eq_true.2 all]
    simpa using point

/-! ### Numbers after stems -/

theorem toList_numbered (base : String) (n : Nat) :
    (numbered base n).toList = base.toList ++ Nat.toDigits 10 n := by
  unfold numbered
  rw [String.toList_append, Nat.toString_eq_repr, Nat.toList_repr]

theorem numbered_inj {base : String} {m n : Nat} (same : numbered base m = numbered base n) :
    m = n := by
  have lists := congrArg String.toList same
  rw [toList_numbered, toList_numbered] at lists
  have digits := congrArg Number.digitsValue (List.append_cancel_left lists)
  rwa [Number.digitsValue_toDigits, Number.digitsValue_toDigits] at digits

theorem isStem_numbered {base : String} (h : IsStem base.toList) (n : Nat) :
    IsStem (numbered base n).toList := by
  rw [toList_numbered]
  have start := h.start
  have chars := h.chars
  cases cs : base.toList with
  | nil =>
    rw [cs] at start
    cases start
  | cons c rest =>
    rw [cs] at start chars
    have digits : ∀ x ∈ Nat.toDigits 10 n, x.isDigit = true := Number.isDigit_toDigits
    refine ⟨start, fun x listed => ?_, ?_⟩
    · rcases List.mem_append.1 listed with old | new
      · exact chars x old
      · have digit := digits x new
        unfold isStemChar Char.isAlphanum
        rw [digit, Bool.or_true, Bool.true_or]
    · rw [List.cons_append]
      refine Lp.isReserved_eq_false start (not_mark (chars c List.mem_cons_self)) fun listed => ?_
      -- no reserved word ends with a digit
      have lasts : ∀ w ∈ Lp.reservedWords, w.toList.getLast?.all (fun x => !x.isDigit) = true := by
        decide
      have last := lasts _ listed
      have some : Nat.toDigits 10 n ≠ [] := Nat.toDigits_ne_nil
      have digit := digits _ (List.getLast_mem some)
      rw [String.toList_ofList, Text.lower, List.getLast?_map, ← List.cons_append,
        List.getLast?_append_of_ne_nil _ some, List.getLast?_eq_some_getLast some, Option.map_some,
        Number.toLower_of_isDigit digit, Option.all_some, digit] at last
      cases last

/-! ### Giving out names -/

variable {pool : NamePool} {names : List String}

theorem candidates_taken {taken : List String} {base : String} {tries n : Nat}
    (h : numbered base (firstFree taken base tries n) ∈ taken) :
    ∀ k ≤ tries, numbered base (n + k) ∈ taken := by
  induction tries generalizing n with
  | zero =>
    intro k le
    rw [Nat.le_zero.1 le]
    exact h
  | succ tries ih =>
    rw [firstFree] at h
    split at h
    · rename_i first
      intro k le
      cases k with
      | zero => exact first
      | succ k =>
        have next := ih h k (Nat.le_of_succ_le_succ le)
        rwa [Nat.add_right_comm] at next
    · rename_i free
      exact absurd h free

/-- There are more candidates than taken names, and they differ. -/
theorem firstFree_not_mem (taken : List String) (base : String) (n : Nat) :
    numbered base (firstFree taken base taken.length n) ∉ taken := by
  intro h
  have all := candidates_taken h
  let candidates := (List.range (taken.length + 1)).map fun k => numbered base (n + k)
  have distinct : candidates.Nodup :=
    List.nodup_range.map fun a b same => Nat.add_left_cancel (numbered_inj same)
  have within : candidates ⊆ taken := by
    intro name listed
    obtain ⟨k, small, rfl⟩ := List.mem_map.1 listed
    exact all k (Nat.le_of_lt_succ (List.mem_range.1 small))
  have fewer := (List.subperm_of_subset distinct within).length_le
  rw [List.length_map, List.length_range] at fewer
  exact Nat.not_succ_le_self _ fewer

/-- A name that is given out is its own stem, was not taken and is taken then. -/
theorem claim_spec (pool : NamePool) (name : String) :
    IsStem (pool.claim name).1.toList ∧ (pool.claim name).1 ∉ pool.taken ∧
      (pool.claim name).2.taken = (pool.claim name).1 :: pool.taken := by
  unfold claim
  dsimp only
  split
  · exact ⟨isStem_numbered (isStem_stem name) _, firstFree_not_mem _ _ _, rfl⟩
  · rename_i free
    exact ⟨isStem_stem name, free, rfl⟩

/-- A name that is its own stem and not taken is given out as it is. -/
theorem claim_of_isStem {name : String} (h : IsStem name.toList) (free : name ∉ pool.taken) :
    (pool.claim name).1 = name := by
  unfold claim
  dsimp only
  rw [stem_of_isStem h, if_neg free]

theorem claimAll_cons (pool : NamePool) (name : String) (names : List String) :
    pool.claimAll (name :: names) =
      ((pool.claim name).1 :: ((pool.claim name).2.claimAll names).1,
        ((pool.claim name).2.claimAll names).2) := rfl

theorem length_claimAll (pool : NamePool) (names : List String) :
    (pool.claimAll names).1.length = names.length := by
  induction names generalizing pool with
  | nil => rfl
  | cons name names ih => exact congrArg (· + 1) (ih _)

theorem mem_taken_claimAll {name : String} :
    name ∈ (pool.claimAll names).2.taken ↔ name ∈ (pool.claimAll names).1 ∨ name ∈ pool.taken := by
  induction names generalizing pool with
  | nil =>
    constructor
    · exact .inr
    · exact fun h => h.resolve_left List.not_mem_nil
  | cons first rest ih =>
    rw [claimAll_cons]
    dsimp only
    rw [ih, (claim_spec pool first).2.2, List.mem_cons, List.mem_cons]
    exact or_left_comm.trans or_assoc.symm

theorem claimAll_spec (pool : NamePool) (names : List String) :
    (∀ name ∈ (pool.claimAll names).1, IsStem name.toList ∧ name ∉ pool.taken) ∧
      (pool.claimAll names).1.Nodup := by
  induction names generalizing pool with
  | nil => exact ⟨fun _ listed => absurd listed List.not_mem_nil, .nil⟩
  | cons first rest ih =>
    obtain ⟨isStem, free, taken⟩ := claim_spec pool first
    obtain ⟨others, distinct⟩ := ih (pool.claim first).2
    rw [taken] at others
    rw [claimAll_cons]
    constructor
    · refine List.forall_mem_cons.2 ⟨⟨isStem, free⟩, fun name listed => ?_⟩
      exact ⟨(others name listed).1, fun old => (others name listed).2 (List.mem_cons_of_mem _ old)⟩
    · refine List.nodup_cons.2 ⟨fun listed => ?_, distinct⟩
      exact (others _ listed).2 List.mem_cons_self

theorem claimAll_of_isStem (all : ∀ name ∈ names, IsStem name.toList ∧ name ∉ pool.taken)
    (distinct : names.Nodup) : (pool.claimAll names).1 = names := by
  induction names generalizing pool with
  | nil => rfl
  | cons first rest ih =>
    obtain ⟨⟨isStem, free⟩, others⟩ := List.forall_mem_cons.1 all
    obtain ⟨new, distinctRest⟩ := List.nodup_cons.1 distinct
    have given := claim_of_isStem isStem free
    have next : ((pool.claim first).2.claimAll rest).1 = rest := by
      refine ih (fun name listed => ⟨(others name listed).1, ?_⟩) distinctRest
      rw [(claim_spec pool first).2.2, given]
      intro taken
      rcases List.mem_cons.1 taken with same | old
      · exact new (same ▸ listed)
      · exact (others name listed).2 old
    rw [claimAll_cons, given, next]

end NamePool

end LinProg
