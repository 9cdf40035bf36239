import Mathlib
import LinProg.Proofs.NamePool

/-!
# Runs of a name pool

A pool is asked for names, and told of names that it must not give out, in any order and as often as
one likes.  Whatever came before, the next name that it gives out is new, plain, and found after a
bounded number of tries: `claim_after_steps`.
-/

namespace LinProg

namespace Lp

theorem isReserved_of_mem_reservedWords {c : Char} {cs : List Char} (marks : c ∉ ['.', '+', '-'])
    (listed : String.ofList (Text.lower (c :: cs)) ∈ reservedWords) :
    isReserved (c :: cs) = true := by
  have unsigned : c ≠ '-' ∧ c ≠ '+' := by
    constructor <;> rintro rfl <;> exact marks (by decide)
  by_cases number : String.ofList (Text.lower (c :: cs)) ∈ ["inf", "infinity", "nan"]
  · have reads : Number.isNumber (c :: cs) = true := by
      simp only [Text.lower, List.mem_cons, List.not_mem_nil, or_false] at number
      simp only [Number.isNumber, Number.read, if_neg unsigned.1, if_neg unsigned.2,
        Number.readMagnitude]
      rcases number with h | h | h <;> rw [h] <;> rfl
    simp [isReserved, reads]
  · unfold isReserved sectionKeyword isWord
    simp only [reservedWords, List.mem_cons, List.not_mem_nil, or_false, not_or] at listed number ⊢
    generalize String.ofList (Text.lower (c :: cs)) = word at listed number
    by_contra free
    simp only [Bool.or_eq_true, not_or, List.any_cons, decide_eq_true_eq] at free
    split_ifs at free <;> simp_all

end Lp

namespace NamePool

/-! ### Plain names -/

/-- A name of letters, digits and underscores that does not start with a digit, and that is neither a
number nor a keyword in any letter case. -/
structure IsPlainName (cs : List Char) : Prop where
  start : ∃ c rest, cs = c :: rest ∧ c.isDigit = false
  chars : ∀ c ∈ cs, c.isAlphanum = true ∨ c = '_'
  number : ∀ x, Number.read cs ≠ .ok x
  keyword : String.ofList (Text.lower cs) ∉ Lp.reservedWords

theorem isStemChar_iff {c : Char} : isStemChar c = true ↔ c.isAlphanum = true ∨ c = '_' := by
  simp [isStemChar]

theorem IsPlainName.isStem {cs : List Char} (h : IsPlainName cs) : IsStem cs := by
  obtain ⟨⟨c, rest, rfl, digit⟩, chars, -, keyword⟩ := h
  have stem : ∀ x ∈ c :: rest, isStemChar x = true := fun x member =>
    isStemChar_iff.2 (chars x member)
  exact ⟨digit, stem, Lp.isReserved_eq_false digit (not_mark (stem c List.mem_cons_self)) keyword⟩

theorem IsStem.isPlainName {cs : List Char} (h : IsStem cs) : IsPlainName cs := by
  obtain ⟨start, chars, free⟩ := h
  cases cs with
  | nil => cases start
  | cons c rest =>
    refine ⟨⟨c, rest, rfl, start⟩, fun x member => isStemChar_iff.1 (chars x member), ?_, ?_⟩
    · intro x reads
      simp [Lp.isReserved, Number.isNumber, reads, Except.isOk, Except.toBool] at free
    · intro listed
      have mark := not_mark (chars c List.mem_cons_self)
      rw [Lp.isReserved_of_mem_reservedWords mark listed] at free
      cases free

/-! ### The search for a number -/

theorem firstFree_least (taken : List String) (base : String) (tries n : Nat) :
    n ≤ firstFree taken base tries n ∧ firstFree taken base tries n ≤ n + tries ∧
      ∀ k, n ≤ k → k < firstFree taken base tries n → numbered base k ∈ taken := by
  induction tries generalizing n with
  | zero => exact ⟨Nat.le_refl _, Nat.le_refl _, fun k _ _ => by simp [firstFree] at *; omega⟩
  | succ tries ih =>
    unfold firstFree
    split
    · rename_i here
      obtain ⟨above, below, passed⟩ := ih (n + 1)
      refine ⟨by omega, by omega, fun k from_n to_end => ?_⟩
      by_cases first : k = n
      · exact first ▸ here
      · exact passed k (by omega) to_end
    · exact ⟨by omega, by omega, fun k _ _ => by omega⟩

/-- The last number put after a stem, one if there is none. -/
def lastNumber (pool : NamePool) (base : String) : Nat := (pool.suffixes.lookup base).getD 1

/-- If the stem of a name is taken, the name given out is the stem with the first number after the last
one for which that is not taken. -/
theorem claim_of_taken {pool : NamePool} {name : String} (taken : stem name ∈ pool.taken) :
    ∃ n, pool.lastNumber (stem name) < n ∧
      n ≤ pool.lastNumber (stem name) + 1 + pool.taken.length ∧
      (pool.claim name).1 = numbered (stem name) n ∧
      ∀ k, pool.lastNumber (stem name) < k → k < n → numbered (stem name) k ∈ pool.taken := by
  obtain ⟨above, below, passed⟩ := firstFree_least pool.taken (stem name) pool.taken.length
    (pool.lastNumber (stem name) + 1)
  refine ⟨_, above, below, ?_, passed⟩
  unfold claim
  dsimp only
  rw [if_pos taken]
  rfl

/-! ### Runs -/

/-- What a pool is asked for: a name, or not to give out some name. -/
inductive Step where
  | claim (name : String)
  | reserve (name : String)

/-- The names given out in some steps, and the pool after them. -/
def run (pool : NamePool) : List Step → List String × NamePool
  | [] => ([], pool)
  | .claim name :: steps =>
    let (given, next) := pool.claim name
    let (others, last) := run next steps
    (given :: others, last)
  | .reserve name :: steps => run (pool.reserve name) steps

/-- The names that steps ask not to give out. -/
def reservations (steps : List Step) : List String :=
  steps.filterMap fun
    | .claim _ => none
    | .reserve name => some name

/-- A name that steps gave out or reserved. -/
def IsGone (steps : List Step) (name : String) : Prop :=
  name ∈ (empty.run steps).1 ∨ name ∈ reservations steps

instance (steps : List Step) (name : String) : Decidable (IsGone steps name) :=
  inferInstanceAs (Decidable (_ ∨ _))

variable {pool : NamePool} {steps : List Step} {name : String}

theorem mem_taken_run :
    name ∈ (pool.run steps).2.taken ↔
      (name ∈ (pool.run steps).1 ∨ name ∈ reservations steps) ∨ name ∈ pool.taken := by
  induction steps generalizing pool with
  | nil => simp [run, reservations]
  | cons step steps ih =>
    cases step with
    | claim asked =>
      obtain ⟨-, -, taken⟩ := claim_spec pool asked
      simp only [run, ih, taken, List.mem_cons, reservations, List.filterMap_cons]
      tauto
    | reserve kept =>
      simp only [run, ih, reserve, List.mem_cons, reservations, List.filterMap_cons]
      tauto

theorem length_taken_run :
    (pool.run steps).2.taken.length = pool.taken.length + steps.length := by
  induction steps generalizing pool with
  | nil => rfl
  | cons step steps ih =>
    cases step with
    | claim asked =>
      obtain ⟨-, -, taken⟩ := claim_spec pool asked
      simp only [run, ih, taken, List.length_cons]
      omega
    | reserve kept =>
      simp only [run, ih, reserve, List.length_cons]
      omega

/-- After any steps, the next name given out was neither given out nor reserved before and is plain.  A
plain name that was neither is given out as it is.  If the stem is gone, the numbers after the last one
used are tried in turn, and no more of them than there were steps, and one. -/
theorem claim_after_steps (steps : List Step) (name : String) :
    let pool := (empty.run steps).2
    let given := (pool.claim name).1
    let last := pool.lastNumber (stem name)
    ¬IsGone steps given ∧ IsPlainName given.toList ∧
      (IsPlainName name.toList → ¬IsGone steps name → given = name) ∧
      (IsGone steps (stem name) →
        ∃ n, last < n ∧ n ≤ last + 1 + steps.length ∧ given = numbered (stem name) n ∧
          ∀ k, last < k → k < n → IsGone steps (numbered (stem name) k)) := by
  intro pool given last
  have taken (other : String) : other ∈ pool.taken ↔ IsGone steps other := by
    have all : other ∈ pool.taken ↔ IsGone steps other ∨ other ∈ empty.taken := mem_taken_run
    simpa [empty] using all
  have count : pool.taken.length = steps.length := length_taken_run.trans (Nat.zero_add _)
  obtain ⟨isStem, fresh, -⟩ := claim_spec pool name
  refine ⟨fun old => fresh ((taken _).2 old), isStem.isPlainName, fun plain new => ?_, fun old => ?_⟩
  · exact claim_of_isStem plain.isStem fun old => new ((taken _).1 old)
  · obtain ⟨n, above, below, shape, passed⟩ := claim_of_taken ((taken _).2 old)
    rw [count] at below
    exact ⟨n, above, below, shape, fun k from_last to_n => (taken _).1 (passed k from_last to_n)⟩

/-- The stem of `x` is gone, and so are the first two numbers after it. -/
def clashingSteps : List Step :=
  [.reserve "obj", .claim "x", .claim "x3", .claim "x!", .claim "1e5", .reserve "v1e52"]

theorem claim_after_steps_clashing :
    let pool := (empty.run clashingSteps).2
    (empty.run clashingSteps).1 = ["x", "x3", "x2", "v1e5"] ∧ (pool.claim "y_1").1 = "y_1" ∧
      IsPlainName (pool.claim "1e5").1.toList ∧ ¬IsGone clashingSteps (pool.claim "1e5").1 ∧
      ∃ n, 2 < n ∧ n ≤ 9 ∧ (pool.claim "x").1 = numbered "x" n ∧
        ∀ k, 2 < k → k < n → IsGone clashingSteps (numbered "x" k) := by
  intro pool
  have own : stem "y_1" = "y_1" := by decide +kernel
  have isStem := isStem_stem "y_1"
  rw [own] at isStem
  have new : ¬IsGone clashingSteps "y_1" := by decide +kernel
  have gone : IsGone clashingSteps (stem "x") := by decide +kernel
  have base : stem "x" = "x" := by decide +kernel
  have last : pool.lastNumber "x" = 2 := by decide +kernel
  obtain ⟨-, -, same, -⟩ := claim_after_steps clashingSteps "y_1"
  obtain ⟨fresh, plain, -, -⟩ := claim_after_steps clashingSteps "1e5"
  obtain ⟨-, -, -, search⟩ := claim_after_steps clashingSteps "x"
  have found := search gone
  rw [base, last] at found
  exact ⟨by decide +kernel, same isStem.isPlainName new, plain, fresh, found⟩

end NamePool

end LinProg
