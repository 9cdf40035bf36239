import Mathlib
import LinProg.Number.Text
import LinProg.Text.Words

/-!
# The shape of a number

A number has one sign at most (`isNumber_unsigned`) and no white space (`isBlank_of_isNumber`).
-/

namespace LinProg.Number
open Text (isBlank)

def isSign (c : Char) : Bool := c = '-' || c = '+'

/-- A text without its leading signs. -/
def unsigned (cs : List Char) : List Char := cs.dropWhile isSign

variable {c : Char} {cs : List Char}

theorem eq_of_isSign (sign : isSign c = true) : c = '-' ∨ c = '+' := by
  simpa [isSign] using sign

/-! ### Signs -/

theorem readMagnitude_sign (sign : isSign c = true) : readMagnitude (c :: cs) = none := by
  have decimal : readDecimal (c :: cs) = none := by
    rcases eq_of_isSign sign with rfl | rfl <;> rfl
  have word (w : String) (other : w.toList.head? ≠ some c) :
      String.ofList ((c :: cs).map Char.toLower) ≠ w := by
    rintro rfl
    rw [String.toList_ofList, List.map_cons, List.head?_cons] at other
    rcases eq_of_isSign sign with rfl | rfl <;> exact other rfl
  have others : ∀ w ∈ ["inf", "infinity", "nan"], w.toList.head? ≠ some c := by
    rcases eq_of_isSign sign with rfl | rfl <;> decide
  unfold readMagnitude
  dsimp only
  rw [if_neg (not_or.2 ⟨word _ (others _ (by simp)), word _ (others _ (by simp))⟩),
    if_neg (word _ (others _ (by simp))), decimal]
  rfl

theorem isNumber_cons : isNumber (c :: cs) =
    if isSign c = true then (readMagnitude cs).isSome else (readMagnitude (c :: cs)).isSome := by
  unfold isNumber read isSign
  dsimp only
  by_cases minus : c = '-'
  · rw [if_pos minus, if_pos (by simp [minus])]
    cases readMagnitude cs <;> rfl
  · rw [if_neg minus]
    by_cases plus : c = '+'
    · rw [if_pos plus, if_pos (by simp [plus])]
      cases readMagnitude cs <;> rfl
    · rw [if_neg plus, if_neg (by simp [minus, plus])]
      cases readMagnitude (c :: cs) <;> rfl

theorem isNumber_unsigned (number : isNumber cs = true) :
    unsigned cs ≠ [] ∧ isNumber (unsigned cs) = true := by
  cases cs with
  | nil => cases number
  | cons c cs =>
    rw [isNumber_cons] at number
    by_cases sign : isSign c = true
    · rw [if_pos sign] at number
      -- a second sign would leave no magnitude
      cases cs with
      | nil => cases number
      | cons d ds =>
        have plain : ¬isSign d = true := by
          intro second
          rw [readMagnitude_sign second] at number
          cases number
        have rest : unsigned (c :: d :: ds) = d :: ds := by
          unfold unsigned
          rw [List.dropWhile_cons_of_pos sign, List.dropWhile_cons_of_neg plain]
        rw [rest, isNumber_cons, if_neg plain]
        exact ⟨List.cons_ne_nil d ds, number⟩
    · have rest : unsigned (c :: cs) = c :: cs := List.dropWhile_cons_of_neg sign
      rw [rest, isNumber_cons]
      exact ⟨List.cons_ne_nil c cs, number⟩

/-! ### White space -/

/-- The characters of a number in digits. -/
def isNumeral (c : Char) : Bool := c.isDigit || ['.', 'e', 'E', '-', '+'].contains c

theorem isNumeral_of_isDigit (digit : c.isDigit = true) : isNumeral c = true := by
  unfold isNumeral
  rw [digit, Bool.true_or]

theorem isNumeral_of_readExponent (read : (readExponent cs).isSome = true) :
    ∀ c ∈ cs, isNumeral c = true := by
  unfold readExponent at read
  split at read
  · exact List.forall_mem_nil _
  · rename_i letter rest
    split at read
    · rename_i mark
      have first : isNumeral letter = true := by
        rcases mark with rfl | rfl <;> decide
      refine List.forall_mem_cons.2 ⟨first, ?_⟩
      dsimp only at read
      split at read
      all_goals
        split at read
        · rename_i digits
          have others := fun d member => isNumeral_of_isDigit (List.all_eq_true.1 digits.2 d member)
          first
            | exact List.forall_mem_cons.2 ⟨by decide, others⟩
            | exact others
        · cases read
    · cases read

theorem isNumeral_of_readDecimal (read : (readDecimal cs).isSome = true) :
    ∀ c ∈ cs, isNumeral c = true := by
  have parts : cs.takeWhile Char.isDigit ++ cs.dropWhile Char.isDigit = cs :=
    List.takeWhile_append_dropWhile
  have whole : ∀ c ∈ cs.takeWhile Char.isDigit, isNumeral c = true :=
    fun c member => isNumeral_of_isDigit (List.mem_takeWhile_imp member)
  rw [← parts]
  refine List.forall_mem_append.2 ⟨whole, ?_⟩
  unfold readDecimal at read
  dsimp only at read
  split at read
  · rename_i more point
    have fraction : more.takeWhile Char.isDigit ++ more.dropWhile Char.isDigit = more :=
      List.takeWhile_append_dropWhile
    rw [point, ← fraction]
    split at read
    · cases read
    · rw [Option.isSome_map] at read
      exact List.forall_mem_cons.2 ⟨by decide, List.forall_mem_append.2
        ⟨fun c member => isNumeral_of_isDigit (List.mem_takeWhile_imp member),
          isNumeral_of_readExponent read⟩⟩
  · split at read
    · cases read
    · rw [Option.isSome_map] at read
      exact isNumeral_of_readExponent read

theorem isBlank_of_range (low : 33 ≤ c.toNat) (high : c.toNat ≤ 126) : isBlank c = false := by
  simp only [isBlank, Bool.or_eq_false_iff, Bool.and_eq_false_iff, decide_eq_false_iff_not,
    beq_eq_false_iff_ne]
  omega

theorem isBlank_of_isNumeral (numeral : isNumeral c = true) : isBlank c = false := by
  rcases Bool.or_eq_true_iff.1 numeral with digit | mark
  · simp only [Char.isDigit, Bool.and_eq_true, decide_eq_true_eq, ge_iff_le, UInt32.le_iff_toNat_le]
      at digit
    change 48 ≤ c.toNat ∧ c.toNat ≤ 57 at digit
    exact isBlank_of_range (by omega) (by omega)
  · have all : ['.', 'e', 'E', '-', '+'].all (fun c => !isBlank c) = true := by decide
    simpa using List.all_eq_true.1 all c (List.contains_iff_mem.1 mark)

theorem toLower_of_isBlank (blank : isBlank c = true) : c.toLower = c := by
  unfold Char.toLower
  rw [dif_neg]
  rintro ⟨low, high⟩
  rw [ge_iff_le, UInt32.le_iff_toNat_le] at low
  rw [UInt32.le_iff_toNat_le] at high
  change 65 ≤ c.toNat at low
  change c.toNat ≤ 90 at high
  rw [isBlank_of_range (by omega) (by omega)] at blank
  cases blank

/-- The characters of a number, which may also be a word. -/
def isNumberChar (c : Char) : Bool := isNumeral c || "infityna".toList.contains c.toLower

theorem isBlank_of_isNumberChar (char : isNumberChar c = true) : isBlank c = false := by
  rcases Bool.or_eq_true_iff.1 char with numeral | letter
  · exact isBlank_of_isNumeral numeral
  · cases blank : isBlank c with
    | false => rfl
    | true =>
      rw [toLower_of_isBlank blank] at letter
      have plain : "infityna".toList.all (fun c => !isBlank c) = true := by decide
      have other := List.all_eq_true.1 plain c (List.contains_iff_mem.1 letter)
      rw [blank] at other
      cases other

theorem isNumberChar_of_readMagnitude (read : (readMagnitude cs).isSome = true) :
    ∀ c ∈ cs, isNumberChar c = true := by
  have word {w : String} (letters : w.toList.all ("infityna".toList.contains ·) = true)
      (same : String.ofList (cs.map Char.toLower) = w) : ∀ c ∈ cs, isNumberChar c = true := by
    intro c member
    rw [← same, String.toList_ofList, List.all_map, List.all_eq_true] at letters
    exact Bool.or_eq_true_iff.2 (.inr (letters c member))
  unfold readMagnitude at read
  dsimp only at read
  split at read
  · rename_i same
    exact same.elim (word (by decide)) (word (by decide))
  · split at read
    · rename_i same
      exact word (by decide) same
    · rw [Option.isSome_map] at read
      exact fun c member => Bool.or_eq_true_iff.2 (.inl (isNumeral_of_readDecimal read c member))

theorem isNumberChar_of_isNumber (number : isNumber cs = true) :
    ∀ c ∈ cs, isNumberChar c = true := by
  cases cs with
  | nil => exact List.forall_mem_nil _
  | cons c cs =>
    rw [isNumber_cons] at number
    split at number
    · rename_i sign
      refine List.forall_mem_cons.2 ⟨?_, isNumberChar_of_readMagnitude number⟩
      rcases eq_of_isSign sign with rfl | rfl <;> decide
    · exact isNumberChar_of_readMagnitude number

theorem isBlank_of_isNumber (number : isNumber cs = true) : ∀ c ∈ cs, isBlank c = false :=
  fun c member => isBlank_of_isNumberChar (isNumberChar_of_isNumber number c member)

end LinProg.Number
