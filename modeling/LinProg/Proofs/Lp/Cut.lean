import Mathlib
import LinProg.Proofs.Lp.Spelling

/-!
# The cut of a text

A text is cut at its relations from left to right: where the next mark stands, the longest spelling is
taken there.  Every text has one such cut, which is what `splitRelations` gives (`splitRelations_eq_iff`).
-/

namespace LinProg.Lp
open Text (IsSpace trim)

/-- No spelling of a relation that stands at the front of a text is longer. -/
def IsLongest (symbol text : List Char) : Prop :=
  ∀ r, ∀ other ∈ spellings r, other <+: text → other.length ≤ symbol.length

/-- The leftmost relation of a text, in the longest spelling at its place. -/
structure IsFirstRelation (r : Relation) (before symbol after : List Char) : Prop where
  spelling : symbol ∈ spellings r
  leftmost : ∀ s, ∀ other ∈ spellings s, ∀ skipped,
    other <+: (before ++ symbol ++ after).drop skipped → before.length ≤ skipped
  longest : IsLongest symbol (symbol ++ after)

/-- The operands and relations of a text: each relation is the first one of what is left of the text,
and there is only white space around the operands between them. -/
inductive IsCut : Cut → List Char → Prop where
  | last {front w back : List Char} : IsSpace front → IsSpace back → IsOperand w →
      IsCut ⟨w, []⟩ (front ++ w ++ back)
  | relation {front w back symbol after : List Char} {r : Relation} {k : Cut} : IsSpace front →
      IsSpace back → IsOperand w → IsFirstRelation r (front ++ w ++ back) symbol after →
      IsCut k after → IsCut ⟨w, (r, k.first) :: k.rest⟩ (front ++ w ++ back ++ symbol ++ after)

variable {k : Cut} {text before symbol after : List Char} {r : Relation} {c : Char}

theorem IsCut.operands (isCut : IsCut k text) : ∀ w ∈ k.operands, IsOperand w := by
  induction isCut with
  | last _ _ operand => exact List.forall_mem_singleton.2 operand
  | relation _ _ operand _ _ ih => exact List.forall_mem_cons.2 ⟨operand, ih⟩

/-- What stands behind the longest spelling does not lengthen it. -/
theorem IsLongest.ends (longest : IsLongest symbol (symbol ++ text)) :
    ∀ c ∈ text.head?, ∀ r, symbol ++ [c] ∉ spellings r := by
  intro c head r spelling
  obtain ⟨rest, rfl⟩ := List.head?_eq_some_iff.1 head
  have short := longest r _ spelling ⟨rest, by simp⟩
  simp at short

/-! ### One cut -/

theorem IsCut.splitRelations_eq (isCut : IsCut k text) : splitRelations text = k := by
  induction isCut with
  | last space space' operand => exact splitRelations_operand operand space space'
  | relation space space' operand first _ ih =>
    rw [splitRelations_operand_append operand space space' first.spelling first.longest.ends, ih]

/-! ### Every text has a cut -/

theorem length_spelling_le (spelling : symbol ∈ spellings r) : symbol.length ≤ 2 := by
  cases r <;> fin_cases spelling <;> decide

theorem exists_spelling (mark : c ∈ relationMarks) : ∃ r, [c] ∈ spellings r := by
  fin_cases mark
  · exact ⟨.le, by decide⟩
  · exact ⟨.ge, by decide⟩
  · exact ⟨.eq, by decide⟩

theorem exists_longest (mark : c ∈ relationMarks) (rest : List Char) :
    ∃ r symbol after, symbol ∈ spellings r ∧ c :: rest = symbol ++ after ∧
      IsLongest symbol (c :: rest) := by
  -- a spelling has two characters at most, so only the next character can lengthen the mark
  by_cases longer : ∃ d ∈ rest.head?, ∃ r, [c, d] ∈ spellings r
  · obtain ⟨d, head, r, spelling⟩ := longer
    obtain ⟨after, rfl⟩ := List.head?_eq_some_iff.1 head
    exact ⟨r, [c, d], after, spelling, rfl, fun s other spelling' _ => length_spelling_le spelling'⟩
  · obtain ⟨r, spelling⟩ := exists_spelling mark
    refine ⟨r, [c], rest, spelling, rfl, fun s other spelling' stands => ?_⟩
    obtain ⟨tail, whole⟩ := stands
    match other, length_spelling_le spelling' with
    | [], _ => exact Nat.zero_le _
    | [d], _ => exact le_rfl
    | [d, e], _ =>
      cases whole
      exact absurd ⟨e, rfl, s, spelling'⟩ longer

/-- No relation begins among characters that are no marks. -/
theorem length_le_of_bare (bare : ∀ c ∈ before, c ∉ relationMarks) (spelling : symbol ∈ spellings r)
    {skipped : Nat} (stands : symbol <+: (before ++ text).drop skipped) :
    before.length ≤ skipped := by
  obtain ⟨c, more, rfl⟩ := List.exists_cons_of_ne_nil (spelling_ne_nil spelling)
  by_contra early
  have within : skipped < before.length := Nat.lt_of_not_le early
  rw [List.drop_append_of_le_length within.le, List.drop_eq_getElem_cons within,
    List.cons_append] at stands
  obtain ⟨rfl, -⟩ := List.cons_prefix_cons.1 stands
  exact bare _ (List.getElem_mem within) (subset_relationMarks spelling List.mem_cons_self)

theorem bare_or_first_mark (text : List Char) : (∀ c ∈ text, c ∉ relationMarks) ∨
    ∃ before c rest, text = before ++ c :: rest ∧ (∀ c ∈ before, c ∉ relationMarks) ∧
      c ∈ relationMarks := by
  induction text with
  | nil => exact .inl (List.forall_mem_nil _)
  | cons c text ih =>
    by_cases mark : c ∈ relationMarks
    · exact .inr ⟨[], c, text, rfl, List.forall_mem_nil _, mark⟩
    · rcases ih with bare | ⟨before, d, rest, rfl, bare, mark'⟩
      · exact .inl (List.forall_mem_cons.2 ⟨mark, bare⟩)
      · exact .inr ⟨c :: before, d, rest, rfl, List.forall_mem_cons.2 ⟨mark, bare⟩, mark'⟩

theorem exists_operand (bare : ∀ c ∈ before, c ∉ relationMarks) :
    ∃ front w back, IsSpace front ∧ IsSpace back ∧ IsOperand w ∧ before = front ++ w ++ back := by
  obtain ⟨front, back, space, space', shape⟩ := Text.exists_trim before
  refine ⟨front, trim before, back, space, space', ⟨fun c member => bare c ?_, ?_⟩, shape⟩
  · rw [shape]
    exact List.mem_append_left _ (List.mem_append_right _ member)
  · exact Text.trim_trim before

theorem exists_isCut (text : List Char) : ∃ k, IsCut k text := by
  induction size : text.length using Nat.strong_induction_on generalizing text with
  | _ n ih =>
    rcases bare_or_first_mark text with bare | ⟨before, c, rest, rfl, bare, mark⟩
    · obtain ⟨front, w, back, space, space', operand, rfl⟩ := exists_operand bare
      exact ⟨_, .last space space' operand⟩
    · obtain ⟨r, symbol, after, spelling, split, longest⟩ := exists_longest mark rest
      obtain ⟨front, w, back, space, space', operand, rfl⟩ := exists_operand bare
      rw [split] at size longest ⊢
      have shorter : after.length < n := by
        have positive := List.length_pos_of_ne_nil (spelling_ne_nil spelling)
        simp only [List.length_append] at size
        omega
      have leftmost : ∀ s, ∀ other ∈ spellings s, ∀ skipped,
          other <+: (front ++ w ++ back ++ symbol ++ after).drop skipped →
            (front ++ w ++ back).length ≤ skipped := by
        intro s other spelling' skipped stands
        rw [List.append_assoc] at stands
        exact length_le_of_bare bare spelling' stands
      obtain ⟨k, isCut⟩ := ih _ shorter after rfl
      rw [← List.append_assoc]
      exact ⟨_, .relation space space' operand ⟨spelling, leftmost, longest⟩ isCut⟩

theorem splitRelations_eq_iff : splitRelations text = k ↔ IsCut k text := by
  refine ⟨?_, IsCut.splitRelations_eq⟩
  rintro rfl
  obtain ⟨k, isCut⟩ := exists_isCut text
  rw [isCut.splitRelations_eq]
  exact isCut

/-- Marks that follow each other are grouped from the left. -/
example : splitRelations "x<==<y=>==>1".toList =
    ⟨['x'], [(.le, []), (.le, ['y']), (.ge, []), (.eq, []), (.ge, ['1'])]⟩ := by
  decide +kernel

end LinProg.Lp
