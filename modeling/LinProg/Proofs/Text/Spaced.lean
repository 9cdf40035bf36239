import Mathlib
import LinProg.Text.Lines

/-!
# Spaced words

`spaced ws` puts single blanks between words.  Cutting it into words gives the words back, and
trimming it, with blanks around, gives the text back.
-/

namespace LinProg.Text

/-- A word is not empty and has no white space. -/
def IsWordText (w : List Char) : Prop := w ≠ [] ∧ ∀ c ∈ w, isBlank c = false

/-- Words with a blank between any two of them. -/
def spaced (ws : List (List Char)) : List Char := List.intercalate [' '] ws

@[simp] theorem spaced_singleton (w : List Char) : spaced [w] = w := List.intercalate_singleton

theorem spaced_cons {w : List Char} {ws : List (List Char)} (more : ws ≠ []) :
    spaced (w :: ws) = w ++ ' ' :: spaced ws := by
  obtain ⟨v, vs, rfl⟩ := List.exists_cons_of_ne_nil more
  unfold spaced
  rw [List.intercalate_cons_cons, List.append_assoc, List.singleton_append]

theorem spaced_append {vs ws : List (List Char)} (left : vs ≠ []) (right : ws ≠ []) :
    spaced (vs ++ ws) = spaced vs ++ ' ' :: spaced ws := by
  induction vs with
  | nil => exact absurd rfl left
  | cons v vs ih =>
    by_cases last : vs = []
    · subst last
      rw [List.singleton_append, spaced_cons right, spaced_singleton]
    · have more : vs ++ ws ≠ [] := fun empty => last (List.append_eq_nil_iff.1 empty).1
      rw [List.cons_append, spaced_cons more, ih last, spaced_cons last, List.append_assoc,
        List.cons_append]

theorem mem_spaced {c : Char} {ws : List (List Char)} (member : c ∈ spaced ws) :
    c = ' ' ∨ ∃ w ∈ ws, c ∈ w := by
  induction ws with
  | nil => cases member
  | cons w ws ih =>
    by_cases last : ws = []
    · subst last
      rw [spaced_singleton] at member
      exact .inr ⟨w, List.mem_cons_self .., member⟩
    · rw [spaced_cons last, List.mem_append, List.mem_cons] at member
      rcases member with inWord | blank | later
      · exact .inr ⟨w, List.mem_cons_self .., inWord⟩
      · exact .inl blank
      · rcases ih later with blank | ⟨v, listed, inWord⟩
        · exact .inl blank
        · exact .inr ⟨v, List.mem_cons_of_mem _ listed, inWord⟩

theorem mem_spaced_of_mem {c : Char} {w : List Char} {ws : List (List Char)} (listed : w ∈ ws)
    (member : c ∈ w) : c ∈ spaced ws := by
  induction ws with
  | nil => cases listed
  | cons v ws ih =>
    by_cases last : ws = []
    · subst last
      rw [spaced_singleton, ← List.mem_singleton.1 listed]
      exact member
    · rw [spaced_cons last, List.mem_append, List.mem_cons]
      rcases List.mem_cons.1 listed with rfl | later
      · exact .inl member
      · exact .inr (.inr (ih later))

/-! ### Words -/

theorem words_append_blank {w : List Char} (word : IsWordText w) (rest : List Char) :
    words (w ++ ' ' :: rest) = w :: words rest := by
  unfold words
  rw [pieces_append_cons isBlank w ' ' rest word.2 rfl, List.filter_cons,
    if_pos (decide_eq_true word.1)]

theorem words_of_word {w : List Char} (word : IsWordText w) : words w = [w] := by
  unfold words
  rw [pieces_of_no_cut isBlank w word.2, List.filter_cons, if_pos (decide_eq_true word.1),
    List.filter_nil]

theorem words_spaced {ws : List (List Char)} (all : ∀ w ∈ ws, IsWordText w) :
    words (spaced ws) = ws := by
  induction ws with
  | nil => rfl
  | cons w ws ih =>
    have word := all w (List.mem_cons_self ..)
    by_cases last : ws = []
    · subst last
      rw [spaced_singleton, words_of_word word]
    · rw [spaced_cons last, words_append_blank word,
        ih fun v listed => all v (List.mem_cons_of_mem _ listed)]

/-! ### Trimming -/

theorem trimFront_append {blanks : List Char} (blank : ∀ c ∈ blanks, isBlank c = true)
    (cs : List Char) : trimFront (blanks ++ cs) = trimFront cs :=
  List.dropWhile_append_of_pos blank

theorem trimFront_cons {c : Char} (plain : isBlank c = false) (cs : List Char) :
    trimFront (c :: cs) = c :: cs :=
  List.dropWhile_cons_of_neg (Bool.eq_false_iff.1 plain)

/-- A text that begins and ends with characters other than white space, with blanks around it. -/
theorem trim_around {front back cs : List Char} {first last : Char}
    (blank : ∀ c ∈ front, isBlank c = true) (blank' : ∀ c ∈ back, isBlank c = true)
    (head : cs.head? = some first) (final : cs.getLast? = some last)
    (plain : isBlank first = false) (plain' : isBlank last = false) :
    trim (front ++ cs ++ back) = cs := by
  obtain ⟨tail, rfl⟩ := List.head?_eq_some_iff.1 head
  obtain ⟨init, shape⟩ := List.getLast?_eq_some_iff.1 final
  unfold trim
  rw [List.append_assoc, trimFront_append blank, List.cons_append, trimFront_cons plain,
    ← List.cons_append, List.reverse_append, trimFront_append, shape, List.reverse_append,
    List.reverse_singleton, List.singleton_append, trimFront_cons plain', List.reverse_cons,
    List.reverse_reverse]
  intro c member
  exact blank' c (List.mem_reverse.1 member)

theorem trim_blank_cons (cs : List Char) : trim (' ' :: cs) = trim cs := rfl

theorem isBlank_of_getLast?_trim {cs : List Char} {c : Char}
    (last : (trim cs).getLast? = some c) : isBlank c = false := by
  unfold trim trimFront at last
  rw [List.getLast?_reverse] at last
  have head := List.head?_dropWhile_not isBlank (cs.dropWhile isBlank).reverse
  rw [last] at head
  exact Bool.eq_false_iff.2 fun blank => by simp [blank] at head

theorem head?_spaced {w : List Char} {ws : List (List Char)} (nonempty : w ≠ []) :
    (spaced (w :: ws)).head? = w.head? := by
  by_cases last : ws = []
  · subst last
    rw [spaced_singleton]
  · rw [spaced_cons last, List.head?_append_of_ne_nil _ nonempty]

theorem getLast?_spaced {w : List Char} {ws : List (List Char)} (nonempty : w ≠ []) :
    (spaced (ws ++ [w])).getLast? = w.getLast? := by
  by_cases only : ws = []
  · subst only
    rw [List.nil_append, spaced_singleton]
  · rw [spaced_append only (List.cons_ne_nil _ _), spaced_singleton, List.getLast?_append_cons,
      List.getLast?_cons_of_ne_nil nonempty]

theorem trim_spaced {front back : List Char} {ws : List (List Char)}
    (blank : ∀ c ∈ front, isBlank c = true) (blank' : ∀ c ∈ back, isBlank c = true)
    (some : ws ≠ []) (all : ∀ w ∈ ws, IsWordText w) :
    trim (front ++ spaced ws ++ back) = spaced ws := by
  obtain ⟨w, more, rfl⟩ := List.exists_cons_of_ne_nil some
  obtain ⟨init, v, shape⟩ := List.eq_nil_or_concat'  (w :: more) |>.resolve_left some
  have word := all w (List.mem_cons_self ..)
  have word' := all v (shape ▸ List.mem_append_right _ (List.mem_singleton_self v))
  have head := (@head?_spaced w more word.1).trans (List.head?_eq_some_head word.1)
  have final := (@getLast?_spaced v init word'.1).trans (List.getLast?_eq_some_getLast word'.1)
  rw [← shape] at final
  exact trim_around blank blank' head final (word.2 _ (List.head_mem word.1))
    (word'.2 _ (List.getLast_mem word'.1))

end LinProg.Text
