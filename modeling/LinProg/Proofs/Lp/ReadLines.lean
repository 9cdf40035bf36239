import Mathlib
import LinProg.Lp.Reader
import LinProg.Proofs.Lp.Token
import LinProg.Proofs.Text.Lines

/-!
# Reading written lines

A written line is an indentation with words after it.  Each lemma says what reading one line, or a
block of lines, does to the state, whatever text follows.
-/

namespace LinProg.Lp
open Text (spaced trim isBlank lines)

/-! ### One line -/

section Line

variable {front : List Char} {ws : List (List Char)}

theorem eq_blank_of_mem_indent : ∀ c ∈ "  ".toList, c = ' ' := fun _ member =>
  List.eq_of_mem_replicate (n := 2) member

theorem isBlank_of_indent (indent : ∀ c ∈ front, c = ' ') : ∀ c ∈ front, isBlank c = true := by
  intro c member
  rw [indent c member]
  rfl

theorem mem_line {c : Char} (indent : ∀ c ∈ front, c = ' ') (words : ∀ w ∈ ws, IsLineWord w)
    (member : c ∈ front ++ spaced ws) : c = ' ' ∨ isBlank c = false ∧ c ≠ '\\' := by
  rcases List.mem_append.1 member with inFront | inWords
  · exact .inl (indent c inFront)
  · rcases Text.mem_spaced inWords with blank | ⟨w, listed, inWord⟩
    · exact .inl blank
    · exact .inr ((words w listed).2 c inWord)

theorem lines_line (indent : ∀ c ∈ front, c = ' ') (words : ∀ w ∈ ws, IsLineWord w)
    (rest : List Char) :
    lines (front ++ spaced ws ++ '\n' :: rest) = (front ++ spaced ws) :: lines rest := by
  apply Text.lines_append
  · intro feed
    rcases mem_line indent words feed with blank | plain
    · exact absurd blank (by decide)
    · exact absurd plain.1 (by decide)
  · intro last
    rcases mem_line indent words (List.mem_of_getLast? last) with blank | plain
    · exact absurd blank (by decide)
    · exact absurd plain.1 (by decide)

theorem splitComment_line (indent : ∀ c ∈ front, c = ' ') (some : ws ≠ [])
    (words : ∀ w ∈ ws, IsLineWord w) : splitComment (front ++ spaced ws) = (spaced ws, none) := by
  have absent : '\\' ∉ front ++ spaced ws := by
    intro mark
    rcases mem_line indent words mark with blank | plain
    · exact absurd blank (by decide)
    · exact plain.2 rfl
  have trimmed : trim (front ++ spaced ws ++ []) = spaced ws :=
    Text.trim_spaced (isBlank_of_indent indent) (by simp) some fun w listed =>
      (words w listed).word
  rw [List.append_nil] at trimmed
  unfold splitComment
  rw [Text.splitOnce_eq_none absent]
  exact congrArg (·, none) trimmed

theorem spaced_ne_nil (some : ws ≠ []) (words : ∀ w ∈ ws, IsLineWord w) : spaced ws ≠ [] := by
  obtain ⟨w, more, rfl⟩ := List.exists_cons_of_ne_nil some
  have nonempty := (words w (List.mem_cons_self ..)).1
  intro empty
  have head := @Text.head?_spaced w more nonempty
  rw [empty] at head
  exact nonempty (List.head?_eq_none_iff.1 head.symm)

/-- A line that is neither a keyword nor the end belongs to the section that is open. -/
theorem readLines_content {s next : ReadState} (indent : ∀ c ∈ front, c = ' ') (some : ws ≠ [])
    (words : ∀ w ∈ ws, IsLineWord w) (keyword : sectionKeyword (spaced ws) = none)
    (notEnd : isWord "end" (spaced ws) = false) (taken : s.takeContent (spaced ws) = .ok next)
    (n : Nat) (rest : List Char) :
    readLines n s (lines (front ++ spaced ws ++ '\n' :: rest)) =
      readLines (n + 1) next (lines rest) := by
  rw [lines_line indent words, readLines, splitComment_line indent some words]
  dsimp only
  rw [if_neg (spaced_ne_nil some words), notEnd, keyword, taken]
  rfl

theorem readLines_keyword {stage : Section} {sense : Option Sense} {s : ReadState}
    (ws : List (List Char)) (some : ws ≠ []) (words : ∀ w ∈ ws, IsLineWord w)
    (keyword : sectionKeyword (spaced ws) = .some (stage, sense))
    (notEnd : isWord "end" (spaced ws) = false) (n : Nat) (rest : List Char) :
    readLines n s (lines (spaced ws ++ '\n' :: rest)) =
      readLines (n + 1) (s.openSection stage sense) (lines rest) := by
  have indent : ∀ c ∈ ([] : List Char), c = ' ' := by simp
  rw [← List.nil_append (spaced ws), lines_line indent words, readLines,
    splitComment_line indent some words]
  dsimp only
  rw [if_neg (spaced_ne_nil some words), notEnd, keyword]
  rfl

end Line

theorem readLines_empty (s : ReadState) (n : Nat) (rest : List Char) :
    readLines n s (lines ('\n' :: rest)) = readLines (n + 1) s (lines rest) := by
  have first : lines ([] ++ '\n' :: rest) = [] :: lines rest :=
    Text.lines_append (by simp) (by simp) rest
  rw [List.nil_append] at first
  rw [first, readLines]
  rfl

theorem readLines_end (s : ReadState) (n : Nat) :
    readLines n s (lines "End\n".toList) = .ok s := by
  have first : lines ("End".toList ++ '\n' :: []) = "End".toList :: lines [] :=
    Text.lines_append (by decide) (by decide) []
  have text : "End\n".toList = "End".toList ++ '\n' :: [] := rfl
  rw [text, first]
  rfl

theorem readLines_title {title : List Char} (nonempty : title ≠ []) (trimmed : trim title = title)
    (oneLine : '\n' ∉ title) (n : Nat) (rest : List Char) :
    readLines n .start (lines ('\\' :: ' ' :: title ++ '\n' :: rest)) =
      readLines (n + 1) { ReadState.start with name := String.ofList title } (lines rest) := by
  have last : title.getLast? ≠ some '\r' := by
    intro last
    rw [← trimmed] at last
    exact absurd (Text.isBlank_of_getLast?_trim last) (by decide)
  have first : lines ('\\' :: ' ' :: title ++ '\n' :: rest) =
      ('\\' :: ' ' :: title) :: lines rest := by
    apply Text.lines_append
    · simp [oneLine]
    · rw [List.getLast?_cons_cons, List.getLast?_cons_of_ne_nil nonempty]
      exact last
  have comment : splitComment ('\\' :: ' ' :: title) = ([], some (' ' :: title)) := rfl
  have named : ReadState.start.takeComment (' ' :: title) =
      { ReadState.start with name := String.ofList title } := by
    unfold ReadState.takeComment
    rw [if_pos ⟨rfl, rfl⟩, Text.trim_blank_cons, trimmed]
  rw [first, readLines, comment]
  dsimp only
  rw [named]
  rfl

/-- A block of lines of one section, each of which takes the state a step further. -/
theorem readLines_block {β : Type} {text : β → List Char} (step : ReadState → β → ReadState)
    (stage : Section) {bs : List β}
    (keeps : ∀ b ∈ bs, ∀ s, s.stage = stage → (step s b).stage = stage)
    (line : ∀ b ∈ bs, ∀ s, s.stage = stage → ∀ n rest,
      readLines n s (lines (text b ++ rest)) = readLines (n + 1) (step s b) (lines rest))
    {s : ReadState} (opened : s.stage = stage) (n : Nat) (rest : List Char) :
    readLines n s (lines (bs.flatMap text ++ rest)) =
      readLines (n + bs.length) (bs.foldl step s) (lines rest) := by
  induction bs generalizing s n with
  | nil => rfl
  | cons b bs ih =>
    have first := List.mem_cons_self (a := b) (l := bs)
    rw [List.flatMap_cons, List.append_assoc, line b first s opened,
      ih (fun c member => keeps c (List.mem_cons_of_mem _ member))
        (fun c member => line c (List.mem_cons_of_mem _ member)) (keeps b first s opened),
      List.foldl_cons, List.length_cons, Nat.add_assoc, Nat.add_comm 1]

/-! ### Lines that are no keywords -/

/-- Characters that occur in no keyword. -/
def strangeMarks : List Char := [':', '<', '>', '=', 'f']

theorem not_keyword_of_mem {c : Char} (mark : c ∈ strangeMarks) {cs : List Char} (member : c ∈ cs) :
    sectionKeyword cs = none ∧ isWord "end" cs = false := by
  have small : c.toLower = c := by
    simp only [strangeMarks, List.mem_cons, List.not_mem_nil, or_false] at mark
    rcases mark with rfl | rfl | rfl | rfl | rfl <;> rfl
  have inWord : c ∈ (String.ofList (Text.lower cs)).toList := by
    rw [String.toList_ofList]
    exact small ▸ List.mem_map_of_mem member
  have other (keywords : List String)
      (absent : keywords.all (fun k => strangeMarks.all (fun m => !k.toList.contains m)) = true) :
      String.ofList (Text.lower cs) ∉ keywords := by
    intro listed
    have without := List.all_eq_true.1 (List.all_eq_true.1 absent _ listed) c mark
    rw [Bool.not_eq_true', List.contains_eq_mem, decide_eq_false_iff_not] at without
    exact without inWord
  constructor
  · unfold sectionKeyword
    rw [if_neg (other _ (by decide)), if_neg (other _ (by decide)), if_neg (other _ (by decide)),
      if_neg (other _ (by decide)), if_neg (other _ (by decide)), if_neg (other _ (by decide))]
  · have notEnd := other ["end"] (by decide)
    unfold isWord
    exact decide_eq_false fun same => notEnd (List.mem_singleton.2 same)

end LinProg.Lp
