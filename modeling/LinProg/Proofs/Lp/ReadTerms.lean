import Mathlib
import LinProg.Lp.Problem
import LinProg.Lp.Terms
import LinProg.Proofs.Lp.Token
import LinProg.Proofs.Number.Arithmetic

/-!
# Reading written sums

A written sum is a list of tokens with blanks between them.  `readTerms_spaced` reads them
back: the terms shown in order, or the placeholder with coefficient zero.
-/

namespace LinProg.Lp
open Text (spaced)

/-- A name that a variable can have in a text. -/
structure IsName (name : String) : Prop where
  valid : isValidName name.toList = true
  free : isReserved name.toList = false

instance (name : String) : Decidable (IsName name) :=
  decidable_of_iff (isValidName name.toList = true ∧ isReserved name.toList = false)
    ⟨fun h => ⟨h.1, h.2⟩, fun h => ⟨h.valid, h.free⟩⟩

theorem IsName.not_isNumber {name : String} (h : IsName name) :
    Number.isNumber name.toList = false := by
  have free := h.free
  unfold isReserved at free
  rw [Bool.or_eq_false_iff, Bool.or_eq_false_iff] at free
  exact free.1.1

theorem IsName.token {name : String} (h : IsName name) : IsToken name.toList :=
  .of_isValidName h.valid

theorem exists_cons_of_isValidName {word : List Char} (valid : isValidName word = true) :
    ∃ c cs, word = c :: cs ∧ c ≠ '-' ∧ c ≠ '+' := by
  cases word with
  | nil => cases valid
  | cons c cs =>
    unfold isValidName at valid
    have letter := (Bool.and_eq_true_iff.1 (List.all_cons ▸ (Bool.and_eq_true_iff.1 valid).2)).1
    refine ⟨c, cs, rfl, ?_, ?_⟩
    · rintro rfl
      revert letter
      decide
    · rintro rfl
      revert letter
      decide

/-! ### The words of a sum -/

def weightedWords (name : String) (c : Float) : List (List Char) :=
  if c.abs == 1 then [name.toList] else [(Number.write c.abs).toList, name.toList]

def signWord (c : Float) : List Char := if c < 0 then ['-'] else ['+']

def furtherWords (terms : List (String × Float)) : List (List Char) :=
  terms.flatMap fun (name, c) => signWord c :: weightedWords name c

/-- The words of a sum, terms with coefficient zero apart. -/
def sumWords : List (String × Float) → Option String → List (List Char)
  | (name, c) :: rest, _ =>
    (if c < 0 then [['-']] else []) ++ weightedWords name c ++ furtherWords rest
  | [], some name => [['0'], name.toList]
  | [], none => [['0']]

/-- The terms that a sum shows: those other than zero. -/
def shownTerms (terms : List (String × Float)) : List (String × Float) :=
  terms.filter fun t => t.2 != 0

theorem weightedWords_ne_nil (name : String) (c : Float) : weightedWords name c ≠ [] := by
  unfold weightedWords
  split <;> exact List.cons_ne_nil _ _

theorem toList_weighted (name : String) (c : Float) :
    (weighted name c).toList = spaced (weightedWords name c) := by
  unfold weighted weightedWords
  split
  · exact (Text.spaced_singleton _).symm
  · rw [Text.spaced_cons (List.cons_ne_nil _ _), Text.spaced_singleton, String.toList_append,
      String.toList_append, List.append_assoc]
    rfl

theorem spaced_append_furtherTerms {words : List (List Char)} (some : words ≠ [])
    (terms : List (String × Float)) :
    spaced words ++ (furtherTerms terms).toList = spaced (words ++ furtherWords terms) := by
  induction terms generalizing words with
  | nil =>
    rw [furtherTerms, furtherWords, List.flatMap_nil, List.append_nil]
    exact List.append_nil _
  | cons term rest ih =>
    obtain ⟨name, c⟩ := term
    have sign : (if c < 0 then " - " else " + ").toList = ' ' :: signWord c ++ [' '] := by
      unfold signWord
      split <;> rfl
    have more : words ++ signWord c :: weightedWords name c ≠ [] :=
      fun empty => List.cons_ne_nil _ _ (List.append_eq_nil_iff.1 empty).2
    have words' : furtherWords ((name, c) :: rest) =
        signWord c :: weightedWords name c ++ furtherWords rest := List.flatMap_cons
    rw [words', ← List.append_assoc, ← ih more, Text.spaced_append some (List.cons_ne_nil _ _),
      Text.spaced_cons (weightedWords_ne_nil name c), furtherTerms, String.toList_append,
      String.toList_append, sign, toList_weighted]
    simp only [List.append_assoc, List.cons_append, List.nil_append]

theorem toList_writeTerms (terms : List (String × Float)) (placeholder : Option String) :
    (writeTerms terms placeholder).toList = spaced (sumWords (shownTerms terms) placeholder) := by
  unfold writeTerms
  change (match shownTerms terms, placeholder with
    | (name, c) :: rest, _ => (if c < 0 then "- " else "") ++ weighted name c ++ furtherTerms rest
    | [], some name => "0 " ++ name
    | [], none => "0").toList = _
  cases shownTerms terms with
  | cons term rest =>
    obtain ⟨name, c⟩ := term
    rw [sumWords]
    dsimp only
    rw [String.toList_append, String.toList_append, toList_weighted]
    split
    · rw [List.singleton_append, ← spaced_append_furtherTerms (List.cons_ne_nil _ _),
        Text.spaced_cons (weightedWords_ne_nil name c)]
      rfl
    · rw [List.nil_append, ← spaced_append_furtherTerms (weightedWords_ne_nil name c)]
      rfl
  | nil =>
    cases placeholder with
    | some name =>
      rw [sumWords, Text.spaced_cons (List.cons_ne_nil _ _), Text.spaced_singleton]
      exact String.toList_append
    | none => rfl

/-- The terms that a sum reads back as: those shown, or the placeholder with coefficient zero. -/
def orPlaceholder : List (String × Float) → Option String → List (String × Float)
  | [], some name => [(name, 0)]
  | shown, _ => shown

/-! ### Taking words -/

namespace TermState

variable {terms : List (String × Float)} {constant sign : Float}

theorem takeWord_minus :
    takeWord ⟨terms, constant, 1, none⟩ ['-'] = .ok ⟨terms, constant, -1, none⟩ := rfl

theorem takeWord_plus :
    takeWord ⟨terms, constant, 1, none⟩ ['+'] = .ok ⟨terms, constant, 1, none⟩ := rfl

theorem takeWord_of_head {c : Char} {cs : List Char} (plain : c ≠ '-' ∧ c ≠ '+') (s : TermState) :
    s.takeWord (c :: cs) = s.takeOperand (c :: cs) := by
  unfold takeWord takeSigns
  rw [if_neg (not_or.2 plain)]

theorem takeOperand_number {word : List Char} {value : Float}
    (read : Number.read word = .ok value) :
    takeOperand ⟨terms, constant, sign, none⟩ word = .ok ⟨terms, constant, sign, some value⟩ := by
  cases word with
  | nil => cases read
  | cons c cs =>
    simp only [takeOperand, read]
    rfl

theorem takeOperand_name {word : List Char} {pending : Option Float}
    (valid : isValidName word = true) (other : Number.isNumber word = false) :
    takeOperand ⟨terms, constant, sign, pending⟩ word =
      .ok ⟨terms ++ [(String.ofList word, sign * pending.getD 1)], constant, 1, none⟩ := by
  cases word with
  | nil => cases valid
  | cons c cs =>
    unfold takeOperand
    cases read : Number.read (c :: cs) with
    | ok value =>
      unfold Number.isNumber at other
      rw [read] at other
      cases other
    | error cause => simp only [if_pos valid]

theorem takeWord_number {c : Char} {cs : List Char} {value : Float} (plain : c ≠ '-' ∧ c ≠ '+')
    (read : Number.read (c :: cs) = .ok value) :
    takeWord ⟨terms, constant, sign, none⟩ (c :: cs) =
      .ok ⟨terms, constant, sign, some value⟩ := by
  rw [takeWord_of_head plain, takeOperand_number read]

theorem takeWord_name {name : String} {pending : Option Float} (isName : IsName name) :
    takeWord ⟨terms, constant, sign, pending⟩ name.toList =
      .ok ⟨terms ++ [(name, sign * pending.getD 1)], constant, 1, none⟩ := by
  obtain ⟨c, cs, shape, plain⟩ := exists_cons_of_isValidName isName.valid
  rw [shape, takeWord_of_head plain, ← shape, takeOperand_name isName.valid isName.not_isNumber,
    String.ofList_toList]

theorem takeWords_weighted {name : String} {c : Float} (isName : IsName name)
    (number : c.isNaN = false) :
    (weightedWords name c).foldlM takeWord ⟨terms, constant, sign, none⟩ =
      .ok ⟨terms ++ [(name, sign * c.abs)], constant, 1, none⟩ := by
  unfold weightedWords
  split
  · rename_i unit
    rw [List.foldlM_cons, takeWord_name isName, Number.eq_one_of_beq unit]
    rfl
  · have number' : c.abs.isNaN = false := (Number.isNaN_abs c).trans number
    have text : (Number.write c.abs).toList = Number.writeMagnitude c.abs := by
      rw [Number.toList_write number', Number.isNegative_abs number]
      rfl
    have read := Number.read_toList_write number'
    obtain ⟨first, rest, shape, letter⟩ := Number.writeMagnitude_cons c.abs
    rw [text, shape] at read ⊢
    have plain : first ≠ '-' ∧ first ≠ '+' := by
      constructor
      · rintro rfl
        rcases letter with letter | letter <;> revert letter <;> decide
      · rintro rfl
        rcases letter with letter | letter <;> revert letter <;> decide
    rw [List.foldlM_cons, takeWord_number plain read]
    show [name.toList].foldlM takeWord ⟨terms, constant, sign, some c.abs⟩ = _
    rw [List.foldlM_cons, takeWord_name isName]
    rfl

theorem takeWords_signed {name : String} {c : Float} (isName : IsName name)
    (number : c.isNaN = false) (nonzero : (c == 0) = false) :
    (signWord c :: weightedWords name c).foldlM takeWord ⟨terms, constant, 1, none⟩ =
      .ok ⟨terms ++ [(name, c)], constant, 1, none⟩ := by
  have product := Number.sign_mul_abs number nonzero
  unfold signWord
  rw [List.foldlM_cons]
  split
  · rename_i negative
    rw [if_pos negative] at product
    rw [takeWord_minus]
    refine (takeWords_weighted isName number).trans ?_
    rw [product]
  · rename_i positive
    rw [if_neg positive] at product
    rw [takeWord_plus]
    refine (takeWords_weighted isName number).trans ?_
    rw [product]

end TermState

/-- A term that a sum shows under a name. -/
structure IsTerm (term : String × Float) : Prop where
  name : IsName term.1
  number : term.2.isNaN = false
  nonzero : (term.2 == 0) = false

namespace TermState

variable {terms : List (String × Float)} {constant : Float}

theorem finish_closed : finish ⟨terms, constant, 1, none⟩ = .ok (terms, constant) := by
  have closed : ((1 : Float) != 1) = false := by decide
  unfold finish
  simp only [closed]
  rfl

theorem takeWords_further {shown : List (String × Float)} (all : ∀ t ∈ shown, IsTerm t) :
    (furtherWords shown).foldlM takeWord ⟨terms, constant, 1, none⟩ =
      .ok ⟨terms ++ shown, constant, 1, none⟩ := by
  induction shown generalizing terms with
  | nil =>
    rw [List.append_nil]
    rfl
  | cons term rest ih =>
    obtain ⟨name, c⟩ := term
    have first := all (name, c) (List.mem_cons_self ..)
    have words : furtherWords ((name, c) :: rest) =
        signWord c :: weightedWords name c ++ furtherWords rest := List.flatMap_cons
    rw [words, List.foldlM_append, takeWords_signed first.name first.number first.nonzero]
    refine (ih fun t listed => all t (List.mem_cons_of_mem _ listed)).trans ?_
    rw [List.append_assoc, List.singleton_append]

/-- Taking the words of a sum leaves a state that finishes with its terms and the constant zero. -/
theorem takeWords_sum {shown : List (String × Float)} {placeholder : Option String}
    (all : ∀ t ∈ shown, IsTerm t) (named : ∀ name ∈ placeholder, IsName name) :
    ∃ s, (sumWords shown placeholder).foldlM takeWord start = .ok s ∧
      s.finish = .ok (orPlaceholder shown placeholder, 0) := by
  cases shown with
  | cons term rest =>
    obtain ⟨name, c⟩ := term
    have first := all (name, c) (List.mem_cons_self ..)
    have product : (if c < 0 then -1 else 1) * c.abs = c :=
      Number.sign_mul_abs first.number first.nonzero
    refine ⟨⟨(name, c) :: rest, 0, 1, none⟩, ?_, finish_closed⟩
    have leading : ((if c < 0 then [['-']] else []) ++ weightedWords name c).foldlM
        takeWord ⟨[], 0, 1, none⟩ = .ok ⟨[(name, c)], 0, 1, none⟩ := by
      split
      · rename_i negative
        rw [if_pos negative] at product
        rw [List.singleton_append, List.foldlM_cons, takeWord_minus]
        refine (takeWords_weighted first.name first.number).trans ?_
        rw [product]
        rfl
      · rename_i positive
        rw [if_neg positive] at product
        refine (takeWords_weighted first.name first.number).trans ?_
        rw [product]
        rfl
    rw [sumWords, List.foldlM_append]
    show (_ >>= _) = _
    rw [start, leading]
    exact takeWords_further fun t listed => all t (List.mem_cons_of_mem _ listed)
  | nil =>
    have read : Number.read ['0'] = .ok 0 := by
      unfold Number.read
      simp [Number.readMagnitude_zero]
    have zero : takeWord start ['0'] = .ok ⟨[], 0, 1, some 0⟩ := takeWord_number (by decide) read
    cases placeholder with
    | some name =>
      refine ⟨⟨[(name, 0)], 0, 1, none⟩, ?_, finish_closed⟩
      rw [sumWords, List.foldlM_cons, zero]
      show [name.toList].foldlM takeWord ⟨[], 0, 1, some 0⟩ = _
      rw [List.foldlM_cons, takeWord_name (named name rfl)]
      show Except.ok (⟨[(name, 1 * 0)], 0, 1, none⟩ : TermState) = _
      rw [Number.one_mul]
    | none =>
      refine ⟨⟨[], 0, 1, some 0⟩, ?_, ?_⟩
      · rw [sumWords, List.foldlM_cons, zero]
        rfl
      · show Except.ok (([], 0 + 1 * 0) : List (String × Float) × Float) = _
        rw [Number.one_mul]
        rfl

end TermState

theorem sumWords_ne_nil (shown : List (String × Float)) (placeholder : Option String) :
    sumWords shown placeholder ≠ [] := by
  unfold sumWords
  split
  · exact fun empty => weightedWords_ne_nil _ _
      (List.append_eq_nil_iff.1 (List.append_eq_nil_iff.1 empty).1).2
  · exact List.cons_ne_nil _ _
  · exact List.cons_ne_nil _ _

theorem IsToken.of_mem_weightedWords {name : String} {c : Float} (isName : IsName name)
    (number : c.isNaN = false) : ∀ w ∈ weightedWords name c, IsToken w := by
  intro w listed
  unfold weightedWords at listed
  split at listed
  · exact List.mem_singleton.1 listed ▸ isName.token
  · rcases List.mem_cons.1 listed with rfl | listed
    · exact .of_write ((Number.isNaN_abs c).trans number)
    · exact List.mem_singleton.1 listed ▸ isName.token

theorem IsToken.of_mem_furtherWords {shown : List (String × Float)}
    (all : ∀ t ∈ shown, IsTerm t) : ∀ w ∈ furtherWords shown, IsToken w := by
  intro w listed
  obtain ⟨term, member, listed⟩ := List.mem_flatMap.1 listed
  have isTerm := all term member
  rcases List.mem_cons.1 listed with rfl | listed
  · unfold signWord
    split
    · exact ⟨List.cons_ne_nil _ _, List.all_eq_true.1 rfl⟩
    · exact ⟨List.cons_ne_nil _ _, List.all_eq_true.1 rfl⟩
  · exact IsToken.of_mem_weightedWords isTerm.name isTerm.number w listed

theorem IsToken.of_mem_sumWords {shown : List (String × Float)} {placeholder : Option String}
    (all : ∀ t ∈ shown, IsTerm t) (named : ∀ name ∈ placeholder, IsName name) :
    ∀ w ∈ sumWords shown placeholder, IsToken w := by
  have zero : IsToken ['0'] := ⟨List.cons_ne_nil _ _, List.all_eq_true.1 rfl⟩
  intro w listed
  cases shown with
  | cons term rest =>
    obtain ⟨name, c⟩ := term
    have first := all (name, c) (List.mem_cons_self ..)
    rw [sumWords, List.mem_append, List.mem_append] at listed
    rcases listed with (sign | weighted) | further
    · split at sign
      · rw [List.mem_singleton.1 sign]
        exact ⟨List.cons_ne_nil _ _, List.all_eq_true.1 rfl⟩
      · cases sign
    · exact IsToken.of_mem_weightedWords first.name first.number w weighted
    · exact IsToken.of_mem_furtherWords (fun t member => all t (List.mem_cons_of_mem _ member)) w
        further
  | nil =>
    cases placeholder with
    | some name =>
      rcases List.mem_cons.1 listed with rfl | listed
      · exact zero
      · exact List.mem_singleton.1 listed ▸ (named name rfl).token
    | none => exact List.mem_singleton.1 listed ▸ zero

/-- A written sum reads back as the terms it shows, without a constant. -/
theorem readTerms_spaced {shown : List (String × Float)} {placeholder : Option String}
    (all : ∀ t ∈ shown, IsTerm t) (named : ∀ name ∈ placeholder, IsName name) :
    readTerms (spaced (sumWords shown placeholder)) =
      .ok (orPlaceholder shown placeholder, 0) := by
  obtain ⟨s, taken, finished⟩ := TermState.takeWords_sum all named
  unfold readTerms
  rw [Text.words_spaced fun w listed => (IsToken.of_mem_sumWords all named w listed).word, taken]
  exact finished

end LinProg.Lp
