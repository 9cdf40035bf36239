import Mathlib
import LinProg.Lp.Relations
import LinProg.Proofs.Text.Layout

/-!
# Operands between relations

A relation has several spellings, which consist of marks.  What stands before the first mark of a text is its
first operand, without the white space around it (`splitRelations_operand_append`).
-/

namespace LinProg.Lp
open Text (IsSpace isBlank trim)

/-- The characters of which relations are spelled. -/
def relationMarks : List Char := ['<', '>', '=']

def spellings : Relation → List (List Char)
  | .le => [['<'], ['<', '='], ['=', '<']]
  | .ge => [['>'], ['>', '='], ['=', '>']]
  | .eq => [['=']]

/-- An operand has no relation in it and no white space around it. -/
structure IsOperand (w : List Char) : Prop where
  bare : ∀ c ∈ w, c ∉ relationMarks
  trimmed : trim w = w

variable {text symbol w : List Char} {r : Relation} {c : Char}

theorem not_mem_relationMarks : c ∉ relationMarks ↔ c ≠ '<' ∧ c ≠ '>' ∧ c ≠ '=' := by
  simp [relationMarks]

theorem isBlank_of_mark (mark : c ∈ relationMarks) : isBlank c = false := by
  have solid : relationMarks.all (fun c => !isBlank c) = true := by decide
  simpa using List.all_eq_true.1 solid c mark

theorem not_mark_of_isBlank (blank : isBlank c = true) : c ∉ relationMarks := by
  intro mark
  rw [isBlank_of_mark mark] at blank
  cases blank

theorem subset_relationMarks (spelling : symbol ∈ spellings r) : symbol ⊆ relationMarks := by
  cases r <;> fin_cases spelling <;> decide

theorem symbol_mem_spellings (r : Relation) : r.symbol.toList ∈ spellings r := by
  cases r <;> decide

theorem spelling_ne_nil (spelling : symbol ∈ spellings r) : symbol ≠ [] := by
  rintro rfl
  cases r <;> simp [spellings] at spelling

/-- Only a mark lengthens a spelling. -/
theorem not_spelling_of_not_mark (other : c ∉ relationMarks) : symbol ++ [c] ∉ spellings r :=
  fun spelling => other (subset_relationMarks spelling
    (List.mem_append_right _ List.mem_cons_self))

namespace IsOperand
variable {front back : List Char}

theorem bare_between (operand : IsOperand w) (space : IsSpace front) (space' : IsSpace back) :
    ∀ c ∈ front ++ w ++ back, c ∉ relationMarks := by
  intro c member
  rcases List.mem_append.1 member with member | blank
  · rcases List.mem_append.1 member with blank | inside
    · exact not_mark_of_isBlank (space c blank)
    · exact operand.bare c inside
  · exact not_mark_of_isBlank (space' c blank)

theorem trim_between (operand : IsOperand w) (space : IsSpace front) (space' : IsSpace back) :
    trim (front ++ w ++ back) = w :=
  (Text.trim_between space space' w).trans operand.trimmed

end IsOperand

/-! ### Cutting -/

theorem cut_cons (other : c ∉ relationMarks) (cs : List Char) :
    cut (c :: cs) = (cut cs).push c := by
  obtain ⟨less, greater, equal⟩ := not_mem_relationMarks.1 other
  rw [cut] <;> simp_all

/-- What stands in front of the first relation goes to the first operand. -/
theorem cut_append (bare : ∀ c ∈ w, c ∉ relationMarks) (cs : List Char) :
    cut (w ++ cs) = { cut cs with first := w ++ (cut cs).first } := by
  induction w with
  | nil => rfl
  | cons c w ih =>
    obtain ⟨first, others⟩ := List.forall_mem_cons.1 bare
    rw [List.cons_append, cut_cons first, ih others]
    rfl

/-- A spelling is read as a whole, unless what follows lengthens it. -/
theorem cut_spelling (spelling : symbol ∈ spellings r)
    (ends : ∀ c ∈ text.head?, ∀ s, symbol ++ [c] ∉ spellings s) :
    cut (symbol ++ text) = (cut text).relate r := by
  cases text with
  | nil => cases r <;> fin_cases spelling <;> rfl
  | cons c text =>
    have less := ends c rfl .le
    have greater := ends c rfl .ge
    cases r <;> fin_cases spelling <;> simp_all [spellings, cut]

/-- An operand in white space, with no relation behind it. -/
theorem splitRelations_operand {front back : List Char} (operand : IsOperand w)
    (space : IsSpace front) (space' : IsSpace back) :
    splitRelations (front ++ w ++ back) = ⟨w, []⟩ := by
  have whole := cut_append (operand.bare_between space space') []
  rw [List.append_nil] at whole
  unfold splitRelations
  rw [whole]
  show Cut.mk (trim (front ++ w ++ back ++ [])) [] = _
  rw [List.append_nil, operand.trim_between space space']

/-- An operand in white space, and a relation behind it. -/
theorem splitRelations_operand_append {front back : List Char} (operand : IsOperand w)
    (space : IsSpace front) (space' : IsSpace back) (spelling : symbol ∈ spellings r)
    (ends : ∀ c ∈ text.head?, ∀ s, symbol ++ [c] ∉ spellings s) :
    splitRelations (front ++ w ++ back ++ symbol ++ text) =
      ⟨w, (r, (splitRelations text).first) :: (splitRelations text).rest⟩ := by
  unfold splitRelations
  rw [List.append_assoc, cut_append (operand.bare_between space space'), cut_spelling spelling ends]
  show Cut.mk (trim (front ++ w ++ back ++ [])) _ = _
  rw [List.append_nil, operand.trim_between space space']
  rfl

end LinProg.Lp
