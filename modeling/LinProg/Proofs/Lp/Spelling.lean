import Mathlib
import LinProg.Proofs.Lp.Mentions
import LinProg.Proofs.Lp.Operand

/-!
# Spellings of relations

A relation has several spellings, with any white space around them.  Cutting a line at its relations gives
its operands and relations, however these are spelled (`splitRelations_of_spelled`).
-/

namespace LinProg.Lp
open Text (IsSpace IsWordText isBlank trim words)

/-- A text has some operands and relations in order, in any spelling and any white space. -/
inductive Spelled : Cut → List Char → Prop where
  | last {front w back : List Char} : IsSpace front → IsSpace back →
      Spelled ⟨w, []⟩ (front ++ w ++ back)
  | relation {front w back symbol text : List Char} {r : Relation} {k : Cut} : IsSpace front →
      IsSpace back → symbol ∈ spellings r → Spelled k text →
      Spelled ⟨w, (r, k.first) :: k.rest⟩ (front ++ w ++ back ++ symbol ++ text)

/-- There is something between any two relations. -/
def Cut.Separated (k : Cut) : Prop := ∀ operand ∈ k.rest.dropLast, operand.2 ≠ []

variable {k : Cut} {text symbol w : List Char} {r : Relation} {c : Char}

/-! ### Cutting -/

/-- The text after a relation does not begin with a mark. -/
theorem Spelled.head_not_mark (spelled : Spelled k text) (operand : IsOperand k.first)
    (filled : k.rest ≠ [] → k.first ≠ []) : ∀ c ∈ text.head?, c ∉ relationMarks := by
  -- only an empty operand lets the next relation come first
  have begins {front w back tail : List Char} (space : IsSpace front) (space' : IsSpace back)
      (operand : IsOperand w) (filled : w ++ tail = [] ∨ w ≠ []) :
      ∀ c ∈ (front ++ w ++ back ++ tail).head?, c ∉ relationMarks := by
    intro c head
    cases front with
    | cons d front =>
      cases head
      exact not_mark_of_isBlank (space c List.mem_cons_self)
    | nil =>
      cases w with
      | cons d w =>
        cases head
        exact operand.bare c List.mem_cons_self
      | nil =>
        obtain rfl : tail = [] := by simpa using filled
        simp only [List.nil_append, List.append_nil] at head
        exact not_mark_of_isBlank (space' c (List.mem_of_head? head))
  cases spelled with
  | @last front w back space space' =>
    have first := @begins front w back [] space space' operand
      (by cases w <;> simp)
    rwa [List.append_nil] at first
  | relation space space' spelling rest =>
    rw [List.append_assoc]
    exact begins space space' operand (.inr (filled (List.cons_ne_nil _ _)))

theorem splitRelations_of_spelled (spelled : Spelled k text)
    (operands : ∀ w ∈ k.operands, IsOperand w) (separated : k.Separated) :
    splitRelations text = k := by
  induction spelled with
  | last space space' => exact splitRelations_operand (operands _ List.mem_cons_self) space space'
  | @relation front w back symbol text r k space space' spelling rest ih =>
    obtain ⟨operand, others⟩ := List.forall_mem_cons.1 operands
    have filled : k.rest ≠ [] → k.first ≠ [] := by
      intro more
      refine separated (r, k.first) ?_
      rw [List.dropLast_cons_of_ne_nil more]
      exact List.mem_cons_self
    have inner : k.Separated := by
      intro operand listed
      refine separated operand ?_
      cases shape : k.rest with
      | nil => simp [shape] at listed
      | cons first more =>
        rw [shape] at listed
        exact List.mem_cons_of_mem _ listed
    have ends := rest.head_not_mark (others k.first List.mem_cons_self) filled
    rw [splitRelations_operand_append operand space space' spelling
      fun c head s => not_spelling_of_not_mark (ends c head), ih others inner]

/-! ### White space around a line -/

theorem Spelled.space_append {space : List Char} (blank : IsSpace space) (spelled : Spelled k text) :
    Spelled k (space ++ text) := by
  have longer {front : List Char} (front' : IsSpace front) : IsSpace (space ++ front) :=
    List.forall_mem_append.2 ⟨blank, front'⟩
  cases spelled with
  | last front back =>
    rw [← List.append_assoc, ← List.append_assoc]
    exact .last (longer front) back
  | relation front back spelling rest =>
    rw [← List.append_assoc, ← List.append_assoc, ← List.append_assoc, ← List.append_assoc]
    exact .relation (longer front) back spelling rest

/-- A line is spelled by what stands between the white space at its ends. -/
theorem Spelled.exists_between (spelled : Spelled k text) (words : ∀ w ∈ k.operands, IsWordText w) :
    ∃ front body back first last, text = front ++ body ++ back ∧ IsSpace front ∧ IsSpace back ∧
      Spelled k body ∧ body.head? = some first ∧ body.getLast? = some last ∧
      isBlank first = false ∧ isBlank last = false := by
  have none : IsSpace [] := List.forall_mem_nil _
  -- the white space at the end belongs to the last operand, so it is found by induction
  induction spelled with
  | @last front w back space space' =>
    have word := words w List.mem_cons_self
    have spelled := Spelled.last (w := w) none none
    rw [List.nil_append, List.append_nil] at spelled
    exact ⟨front, w, back, w.head word.1, w.getLast word.1, rfl, space, space', spelled,
      List.head?_eq_some_head _, List.getLast?_eq_some_getLast _, word.2 _ (List.head_mem _),
      word.2 _ (List.getLast_mem _)⟩
  | @relation front w back symbol text r k space space' spelling rest ih =>
    obtain ⟨word, others⟩ := List.forall_mem_cons.1 words
    obtain ⟨front', body, back', first, last, rfl, blank, blank', inner, -, final, -, solid⟩ :=
      ih others
    have spelled := Spelled.relation (w := w) none space' spelling (inner.space_append blank)
    refine ⟨front, _, back', w.head word.1, last, ?_, space, blank', spelled, ?_, ?_,
      word.2 _ (List.head_mem _), solid⟩
    · simp only [List.nil_append, List.append_assoc]
    · rw [List.nil_append, List.append_assoc, List.append_assoc, List.head?_append_of_ne_nil _ word.1]
      exact List.head?_eq_some_head _
    · rw [List.getLast?_append, List.getLast?_append, final]
      rfl

theorem Spelled.trim (spelled : Spelled k text) (words : ∀ w ∈ k.operands, IsWordText w) :
    Spelled k (trim text) := by
  obtain ⟨front, body, back, first, last, rfl, blank, blank', inner, head, final, solid, solid'⟩ :=
    spelled.exists_between words
  rw [Text.trim_around blank blank' head final solid solid']
  exact inner

/-- Each character of a line is white space, or belongs to a relation or to an operand. -/
theorem Spelled.char_cases (spelled : Spelled k text) (member : c ∈ text) :
    isBlank c = true ∨ c ∈ relationMarks ∨ ∃ w ∈ k.operands, c ∈ w := by
  have around {front w back : List Char} (space : IsSpace front) (space' : IsSpace back)
      (member : c ∈ front ++ w ++ back) : isBlank c = true ∨ c ∈ w := by
    rcases List.mem_append.1 member with before | after
    · exact (List.mem_append.1 before).imp_left (space c)
    · exact .inl (space' c after)
  induction spelled with
  | last space space' =>
    exact (around space space' member).imp_right fun inside => .inr ⟨_, List.mem_cons_self, inside⟩
  | relation space space' spelling rest ih =>
    rcases List.mem_append.1 member with before | after
    · rcases List.mem_append.1 before with inside | mark
      · exact (around space space' inside).imp_right fun inside =>
          .inr ⟨_, List.mem_cons_self, inside⟩
      · exact .inr (.inl (subset_relationMarks spelling mark))
    · refine (ih after).imp_right (Or.imp_right fun found => ?_)
      obtain ⟨w, listed, inside⟩ := found
      exact ⟨w, List.mem_cons_of_mem _ listed, inside⟩

theorem Spelled.exists_mark (spelled : Spelled k text) (related : k.rest ≠ []) :
    ∃ c ∈ text, c ∈ relationMarks := by
  cases spelled with
  | last => exact absurd rfl related
  | @relation _ _ _ symbol _ _ _ _ _ spelling _ =>
    obtain ⟨c, cs, rfl⟩ := List.exists_cons_of_ne_nil (spelling_ne_nil spelling)
    exact ⟨c, by simp, subset_relationMarks spelling List.mem_cons_self⟩

/-! ### Words -/

theorem mem_words_symbol {before after : List Char} (marks : symbol ⊆ relationMarks)
    (nonempty : symbol ≠ []) (listed : w ∈ words (before ++ symbol ++ after)) :
    (∃ c ∈ w, c ∈ relationMarks) ∨ w ∈ words before ∨ w ∈ words after := by
  induction symbol generalizing before with
  | nil => exact absurd rfl nonempty
  | cons c symbol ih =>
    obtain ⟨mark, others⟩ := List.cons_subset.1 marks
    rw [List.append_assoc, List.cons_append] at listed
    rcases Text.mem_words_join (isBlank_of_mark mark) listed with inside | early | late
    · exact .inl ⟨c, inside, mark⟩
    · exact .inr (.inl early)
    · by_cases last : symbol = []
      · subst last
        exact .inr (.inr late)
      · rcases @ih [] others last late with inside | none | late
        · exact .inl inside
        · cases none
        · exact .inr (.inr late)

/-- A word of a line has a relation in it, unless it is a word of an operand. -/
theorem Spelled.word_cases (spelled : Spelled k text) (listed : w ∈ words text) :
    (∃ c ∈ w, c ∈ relationMarks) ∨ ∃ operand ∈ k.operands, w ∈ words operand := by
  have inside {front w back : List Char} (space : IsSpace front) (space' : IsSpace back) :
      words (front ++ w ++ back) = words w := by
    rw [Text.words_append_of_space space', Text.words_append_space space]
  induction spelled with
  | @last front v back space space' =>
    rw [inside space space'] at listed
    exact .inr ⟨v, List.mem_cons_self, listed⟩
  | @relation front v back symbol text r k space space' spelling rest ih =>
    rcases mem_words_symbol (subset_relationMarks spelling) (spelling_ne_nil spelling) listed with mark | before | after
    · exact .inl mark
    · rw [inside space space'] at before
      exact .inr ⟨v, List.mem_cons_self, before⟩
    · refine (ih after).imp_right fun found => ?_
      obtain ⟨operand, member, word⟩ := found
      exact ⟨operand, List.mem_cons_of_mem _ member, word⟩

end LinProg.Lp
