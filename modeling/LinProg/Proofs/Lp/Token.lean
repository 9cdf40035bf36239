import Mathlib
import LinProg.Lp.Bound
import LinProg.Proofs.Number.RoundTrip
import LinProg.Proofs.Text.Spaced

/-!
# Tokens

Names and written numbers consist of characters that no part of the reader cuts at.
-/

namespace LinProg.Lp
open Text (isBlank IsWordText)

/-- The characters at which a line is cut, white space apart. -/
def lineMarks : List Char := ['<', '>', '=', ':', '\\']

/-- A character at which a line is cut neither into words nor into parts. -/
def isPlain (c : Char) : Bool := !isBlank c && !lineMarks.contains c

/-- A token is not empty and consists of plain characters. -/
def IsToken (w : List Char) : Prop := w ≠ [] ∧ ∀ c ∈ w, isPlain c = true

theorem IsToken.word {w : List Char} (token : IsToken w) : IsWordText w := by
  refine ⟨token.1, fun c member => ?_⟩
  have plain := token.2 c member
  unfold isPlain at plain
  exact Bool.not_eq_true' _ ▸ (Bool.and_eq_true_iff.1 plain).1

theorem isToken_all {w : List Char} (token : IsToken w) : ∀ v ∈ [w], IsToken v := fun _ listed =>
  List.mem_singleton.1 listed ▸ token

/-- A word of a line, which is outside of any comment. -/
def IsLineWord (w : List Char) : Prop := w ≠ [] ∧ ∀ c ∈ w, isBlank c = false ∧ c ≠ '\\'

theorem IsLineWord.word {w : List Char} (h : IsLineWord w) : IsWordText w :=
  ⟨h.1, fun c member => (h.2 c member).1⟩

theorem IsToken.lineWord {w : List Char} (token : IsToken w) : IsLineWord w := by
  refine ⟨token.1, fun c member => ⟨token.word.2 c member, ?_⟩⟩
  rintro rfl
  exact absurd (token.2 _ member) (by decide)

theorem IsLineWord.of_all {w : List Char} (nonempty : w ≠ [])
    (all : w.all (fun c => !isBlank c && c != '\\') = true) : IsLineWord w := by
  refine ⟨nonempty, fun c member => ?_⟩
  have plain := List.all_eq_true.1 all c member
  rw [Bool.and_eq_true, Bool.not_eq_true', bne_iff_ne] at plain
  exact plain

theorem isLineWord_symbol (r : Relation) : IsLineWord r.symbol.toList := by
  cases r with
  | le | ge | eq => exact .of_all (by decide) (by decide)

theorem isPlain_of_isAlphanum {c : Char} (letter : c.isAlphanum) : isPlain c = true := by
  have range : (48 ≤ c.toNat ∧ c.toNat ≤ 57) ∨ (65 ≤ c.toNat ∧ c.toNat ≤ 90) ∨
      (97 ≤ c.toNat ∧ c.toNat ≤ 122) := by
    simp only [Char.isAlphanum, Char.isAlpha, Char.isUpper, Char.isLower, Char.isDigit,
      Bool.or_eq_true, Bool.and_eq_true, decide_eq_true_eq, ge_iff_le, UInt32.le_iff_toNat_le]
      at letter
    change (((65 ≤ c.toNat ∧ c.toNat ≤ 90) ∨ (97 ≤ c.toNat ∧ c.toNat ≤ 122)) ∨
      (48 ≤ c.toNat ∧ c.toNat ≤ 57)) at letter
    omega
  have blank : isBlank c = false := by
    simp only [isBlank, Bool.or_eq_false_iff, Bool.and_eq_false_iff, decide_eq_false_iff_not,
      beq_eq_false_iff_ne]
    omega
  have other : c ∉ lineMarks := by
    intro listed
    simp only [lineMarks, List.mem_cons, List.not_mem_nil, or_false] at listed
    rcases listed with rfl | rfl | rfl | rfl | rfl <;> revert range <;> decide
  unfold isPlain
  rw [blank, Bool.not_false, Bool.true_and, Bool.not_eq_true', List.contains_eq_mem,
    decide_eq_false_iff_not]
  exact other

theorem isPlain_of_isNameChar {c : Char} (letter : isNameChar c) : isPlain c = true := by
  unfold isNameChar at letter
  rcases Bool.or_eq_true_iff.1 letter with alphanumeric | mark
  · exact isPlain_of_isAlphanum alphanumeric
  · have all : nameMarks.all isPlain = true := by decide
    exact List.all_eq_true.1 all c (List.contains_iff_mem.1 mark)

theorem IsToken.of_isValidName {w : List Char} (valid : isValidName w = true) : IsToken w := by
  cases w with
  | nil => cases valid
  | cons c cs =>
    refine ⟨List.cons_ne_nil _ _, fun d member => isPlain_of_isNameChar ?_⟩
    exact List.all_eq_true.1 (Bool.and_eq_true_iff.1 valid).2 d member

/-! ### Written numbers -/

theorem isPlain_of_isDigit {c : Char} (digit : c.isDigit) : isPlain c = true :=
  isPlain_of_isAlphanum (by rw [Char.isAlphanum, digit, Bool.or_true])

theorem isPlain_positional (d : Decimal) : ∀ c ∈ Number.positional d, isPlain c = true := by
  obtain ⟨r, form, _⟩ := Number.positional_form d
  intro c member
  generalize Number.positional d = text at form member
  cases form with
  | whole digits _ => exact isPlain_of_isDigit (digits c member)
  | point digits _ digits' =>
    rw [List.mem_append, List.mem_cons] at member
    rcases member with whole | point | fraction
    · exact isPlain_of_isDigit (digits c whole)
    · subst point
      rfl
    · exact isPlain_of_isDigit (digits' c fraction)

theorem isPlain_writeMagnitude (x : Float) :
    ∀ c ∈ Number.writeMagnitude x, isPlain c = true := by
  unfold Number.writeMagnitude
  split
  · exact List.all_eq_true.1 (show ['i', 'n', 'f'].all isPlain = true by decide)
  · split
    · exact List.all_eq_true.1 (show ['0'].all isPlain = true by decide)
    · exact isPlain_positional _

theorem IsToken.of_writeMagnitude (x : Float) : IsToken (Number.writeMagnitude x) := by
  obtain ⟨c, cs, first, _⟩ := Number.writeMagnitude_cons x
  exact ⟨first ▸ List.cons_ne_nil _ _, isPlain_writeMagnitude x⟩

theorem IsToken.of_write {x : Float} (number : x.isNaN = false) :
    IsToken (Number.write x).toList := by
  have magnitude := IsToken.of_writeMagnitude x
  rw [Number.toList_write number]
  split
  · refine ⟨List.cons_ne_nil _ _, fun c member => ?_⟩
    rcases List.mem_cons.1 member with rfl | later
    · rfl
    · exact magnitude.2 c later
  · exact magnitude

end LinProg.Lp
