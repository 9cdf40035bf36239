import Mathlib
import LinProg.Text.Lines

/-!
# Cutting off what stands in front

A text is cut at the first mark, and its first line ends at the first line feed.
-/

namespace LinProg.Text

theorem splitOnce_append {mark : Char} {before : List Char} (absent : mark ∉ before)
    (after : List Char) : splitOnce mark (before ++ mark :: after) = some (before, after) := by
  induction before with
  | nil =>
    rw [List.nil_append, splitOnce, if_pos rfl]
  | cons c before ih =>
    have other : c ≠ mark := fun same => absent (same ▸ List.mem_cons_self ..)
    rw [List.cons_append, splitOnce, if_neg other, ih (List.not_mem_of_not_mem_cons absent)]
    rfl

theorem splitOnce_eq_none {mark : Char} {cs : List Char} (absent : mark ∉ cs) :
    splitOnce mark cs = none := by
  induction cs with
  | nil => rfl
  | cons c cs ih =>
    have other : c ≠ mark := fun same => absent (same ▸ List.mem_cons_self ..)
    rw [splitOnce, if_neg other, ih (List.not_mem_of_not_mem_cons absent)]
    rfl

theorem closeLines_cons {line : List Char} {more : List (List Char)} (ret : Char)
    (another : more ≠ []) :
    closeLines ret (line :: more) = dropReturn ret line :: closeLines ret more := by
  obtain ⟨next, rest, rfl⟩ := List.exists_cons_of_ne_nil another
  rfl

/-- A line without line feed that does not end in a carriage return is the first line. -/
theorem lines_append {line : List Char} (noFeed : '\n' ∉ line)
    (noReturn : line.getLast? ≠ some '\r') (rest : List Char) :
    lines (line ++ '\n' :: rest) = line :: lines rest := by
  have first : pieces (· == '\n') (line ++ '\n' :: rest) = line :: pieces (· == '\n') rest := by
    apply pieces_append_cons
    · intro c member
      exact beq_eq_false_iff_ne.2 fun same => noFeed (same ▸ member)
    · rfl
  unfold lines
  rw [first, closeLines_cons '\r' (pieces_ne_nil _ rest)]
  unfold dropReturn
  rw [if_neg noReturn]

end LinProg.Text
