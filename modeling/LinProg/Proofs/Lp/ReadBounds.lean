import Mathlib
import LinProg.Lp.Problem
import LinProg.Proofs.Lp.Mentions
import LinProg.Proofs.Lp.Operand
import LinProg.Proofs.Lp.ReadTerms

/-!
# Reading written bounds

A line is cut at the relations that the writer puts between blanks, and a bound line sets the sides
of a variable that has not been bounded to those of the column.
-/

namespace LinProg.Lp
open Text (IsSpace spaced trim isBlank)

/-! ### Relations between blanks -/

theorem not_mark_of_isPlain {c : Char} (plain : isPlain c = true) : c ∉ relationMarks := by
  intro mark
  have marks : relationMarks.all (!isPlain ·) = true := by decide
  have other := List.all_eq_true.1 marks c mark
  rw [plain] at other
  cases other

theorem isOperand_spaced {ws : List (List Char)} (some : ws ≠ []) (all : ∀ w ∈ ws, IsToken w) :
    IsOperand (spaced ws) := by
  refine ⟨fun c member => ?_, ?_⟩
  · rcases Text.mem_spaced member with rfl | ⟨w, listed, inWord⟩
    · decide
    · exact not_mark_of_isPlain ((all w listed).2 c inWord)
  · have trimmed : trim ([] ++ spaced ws ++ []) = spaced ws :=
      Text.trim_spaced (by simp) (by simp) some fun w listed => (all w listed).word
    rwa [List.nil_append, List.append_nil] at trimmed

theorem splitRelations_blank_cons (cs : List Char) :
    splitRelations (' ' :: cs) = splitRelations cs := by
  unfold splitRelations
  rw [cut_cons (by decide)]
  rfl

theorem splitRelations_spaced {ws : List (List Char)} (some : ws ≠ [])
    (all : ∀ w ∈ ws, IsToken w) : splitRelations (spaced ws) = ⟨spaced ws, []⟩ := by
  have none : IsSpace [] := List.forall_mem_nil _
  have alone := splitRelations_operand (isOperand_spaced some all) none none
  rwa [List.nil_append, List.append_nil] at alone

theorem splitRelations_relation {ws : List (List Char)} (some : ws ≠ [])
    (all : ∀ w ∈ ws, IsToken w) (r : Relation) (cs : List Char) :
    splitRelations (spaced ws ++ ' ' :: (r.symbol.toList ++ ' ' :: cs)) =
      ⟨spaced ws, (r, (splitRelations cs).first) :: (splitRelations cs).rest⟩ := by
  have none : IsSpace [] := List.forall_mem_nil _
  have blank : IsSpace [' '] := List.forall_mem_singleton.2 rfl
  have ends : ∀ c ∈ (' ' :: cs).head?, ∀ s, r.symbol.toList ++ [c] ∉ spellings s := by
    rintro c ⟨⟩ s
    exact not_spelling_of_not_mark (by decide)
  have cuts := splitRelations_operand_append (isOperand_spaced some all) none blank
    (symbol_mem_spellings r) ends
  rw [splitRelations_blank_cons, List.nil_append, List.append_assoc, List.append_assoc,
    List.singleton_append] at cuts
  exact cuts

/-! ### Limits -/

/-- A number that is read as it is where large numbers stand for infinity. -/
def IsLimit (x : Float) : Prop := x.isInf = true ∨ -infiniteFrom < x ∧ x < infiniteFrom

instance (x : Float) : Decidable (IsLimit x) :=
  inferInstanceAs (Decidable (x.isInf = true ∨ -infiniteFrom < x ∧ x < infiniteFrom))

theorem IsLimit.number {x : Float} (limit : IsLimit x) : x.isNaN = false := by
  rcases limit with infinite | ⟨_, below⟩
  · rw [Number.isInf_eq] at infinite
    show x.toModel.unpack.isNaN = false
    cases shape : x.toModel.unpack with
    | notANumber =>
      rw [shape] at infinite
      cases infinite
    | _ => rfl
  · exact (Number.not_isNaN_of_lt below).1

theorem eq_infinity_of_isInf {x : Float} (infinite : x.isInf = true) :
    x = Number.infinity ∨ x = -Number.infinity := by
  rw [Number.isInf_eq] at infinite
  cases shape : x.toModel.unpack with
  | infinity s =>
    cases s with
    | positive => exact .inl (Number.eq_of_unpack_eq shape)
    | negative => exact .inr (Number.eq_of_unpack_eq shape)
  | _ =>
    rw [shape] at infinite
    cases infinite

theorem trim_of_isToken {w : List Char} (token : IsToken w) : trim w = w := by
  have trimmed : trim ([] ++ spaced [w] ++ []) = spaced [w] := by
    refine Text.trim_spaced (by simp) (by simp) (List.cons_ne_nil _ _) fun v listed => ?_
    exact List.mem_singleton.1 listed ▸ token.word
  rwa [List.nil_append, List.append_nil, Text.spaced_singleton] at trimmed

theorem readLimit_write {x : Float} (limit : IsLimit x) :
    readLimit (Number.write x).toList = some x := by
  unfold readLimit
  rw [trim_of_isToken (.of_write limit.number), Number.read_toList_write limit.number]
  dsimp only
  rcases limit with infinite | ⟨above, below⟩
  · rcases eq_infinity_of_isInf infinite with rfl | rfl
    · exact if_pos (by decide +kernel)
    · rw [if_neg (by decide +kernel), if_pos (by decide +kernel)]
  · rw [if_neg (Number.not_le_of_lt below), if_neg (Number.not_le_of_lt above)]

/-! ### Bound lines -/

theorem eq_neg_infinity_of_beq {x : Float} (same : (x == -Number.infinity) = true) :
    x = -Number.infinity := by
  rcases Number.eq_or_zero_of_beq same with h | ⟨_, h⟩
  · exact h
  · exact absurd h (by decide)

theorem write_neg_infinity : Number.write (-Number.infinity) = "-inf" := by decide

theorem eq_infinity_of_not_lt {x : Float} (number : x.isNaN = false)
    (notBelow : ¬x < Number.infinity) : x = Number.infinity := by
  rw [Number.lt_iff] at notBelow
  apply Number.eq_of_unpack_eq
  change ¬x.toModel.unpack.compare (.infinity .positive) = some .lt at notBelow
  change x.toModel.unpack = .infinity .positive
  change x.toModel.unpack.isNaN = false at number
  generalize x.toModel.unpack = u at notBelow number
  cases u with
  | notANumber => cases number
  | infinity s =>
    cases s with
    | positive => rfl
    | negative => exact absurd rfl notBelow
  | zero s => exact absurd rfl notBelow
  | finite s m e h => cases s <;> exact absurd rfl notBelow

def boundWords (c : ProblemColumn) : List (List Char) :=
  if c.isFree then [c.name.toList, "free".toList]
  else [(Number.write c.lower).toList, "<=".toList, c.name.toList] ++
    if c.upper < Number.infinity then ["<=".toList, (Number.write c.upper).toList] else []

theorem toList_boundText (c : ProblemColumn) :
    c.boundText.toList = "  ".toList ++ spaced (boundWords c) ++ ['\n'] := by
  have lower : (if c.lower == -Number.infinity then "-inf" else Number.write c.lower) =
      Number.write c.lower := by
    split
    · rename_i same
      rw [eq_neg_infinity_of_beq same, write_neg_infinity]
    · rfl
  unfold ProblemColumn.boundText boundWords
  split
  · simp [String.toList_append, Text.spaced_cons, Text.spaced_singleton]
  · rw [lower]
    split
    · simp [String.toList_append, Text.spaced_cons, Text.spaced_singleton]
    · simp [String.toList_append, Text.spaced_cons, Text.spaced_singleton]

theorem splitRelations_one {left right : List Char} (token : IsToken left) (token' : IsToken right)
    (r : Relation) :
    splitRelations (spaced [left, r.symbol.toList, right]) = ⟨left, [(r, right)]⟩ := by
  have last := splitRelations_spaced (List.cons_ne_nil _ _) (isToken_all token')
  have first := splitRelations_relation (List.cons_ne_nil _ _) (isToken_all token) r (spaced [right])
  rw [last] at first
  rw [Text.spaced_cons (List.cons_ne_nil _ _), Text.spaced_cons (List.cons_ne_nil _ _)]
  simpa only [Text.spaced_singleton] using first

theorem splitRelations_two {left middle right : List Char} (token : IsToken left)
    (token' : IsToken middle) (token'' : IsToken right) (r s : Relation) :
    splitRelations (spaced [left, r.symbol.toList, middle, s.symbol.toList, right]) =
      ⟨left, [(r, middle), (s, right)]⟩ := by
  have last := splitRelations_one token' token'' s
  have first := splitRelations_relation (List.cons_ne_nil _ _) (isToken_all token) r
    (spaced [middle, s.symbol.toList, right])
  rw [last] at first
  rw [Text.spaced_cons (List.cons_ne_nil _ _), Text.spaced_cons (List.cons_ne_nil _ _)]
  simpa only [Text.spaced_singleton] using first

theorem isLineWord_boundWords {c : ProblemColumn} (isName : IsName c.name)
    (lower : IsLimit c.lower) (upper : IsLimit c.upper) :
    ∀ w ∈ boundWords c, IsLineWord w := by
  have token := IsToken.of_write lower.number
  have token' := IsToken.of_write upper.number
  have relation : IsLineWord "<=".toList := isLineWord_symbol .le
  have word : IsLineWord "free".toList := .of_all (by decide) (by decide)
  have name := isName.token.lineWord
  intro w listed
  unfold boundWords at listed
  split at listed
  · simp only [List.mem_cons, List.not_mem_nil, or_false] at listed
    rcases listed with rfl | rfl
    · exact name
    · exact word
  · rcases List.mem_append.1 listed with first | second
    · simp only [List.mem_cons, List.not_mem_nil, or_false] at first
      rcases first with rfl | rfl | rfl
      · exact token.lineWord
      · exact relation
      · exact name
    · split at second
      · simp only [List.mem_cons, List.not_mem_nil, or_false] at second
        rcases second with rfl | rfl
        · exact relation
        · exact token'.lineWord
      · cases second

def boundLine (c : ProblemColumn) : BoundLine :=
  ⟨c.name.toList, some c.lower,
    if c.isFree ∨ c.upper < Number.infinity then some c.upper else none⟩

theorem read_boundWords {c : ProblemColumn} (isName : IsName c.name) (lower : IsLimit c.lower)
    (upper : IsLimit c.upper) :
    BoundLine.read (spaced (boundWords c)) = .ok (boundLine c) := by
  have words := Text.words_spaced fun w listed =>
    (isLineWord_boundWords isName lower upper w listed).word
  have token : IsToken (Number.write c.lower).toList := .of_write lower.number
  have token' : IsToken (Number.write c.upper).toList := .of_write upper.number
  have related {text u v w : List Char} {more : List (List Char)}
      (words : Text.words text = u :: v :: w :: more) : isFreeLine text = false := by
    unfold isFreeLine
    rw [words]
  unfold boundWords at words ⊢
  unfold boundLine
  by_cases free : c.isFree = true
  · rw [if_pos free] at words ⊢
    rw [if_pos (.inl free)]
    have sides := Bool.and_eq_true_iff.1 free
    have lowest := eq_neg_infinity_of_beq sides.1
    have highest : c.upper = Number.infinity := by
      rcases Number.eq_or_zero_of_beq sides.2 with h | ⟨_, h⟩
      · exact h
      · exact absurd h (by decide)
    unfold BoundLine.read
    rw [words, lowest, highest]
    rfl
  · rw [if_neg free] at words ⊢
    by_cases bounded : c.upper < Number.infinity
    · rw [if_pos bounded] at words ⊢
      rw [if_pos (.inr bounded)]
      refine BoundLine.read_of_related (related words) ?_ isName.valid
      refine (congrArg BoundLine.ofCut?
        (splitRelations_two token isName.token token' .le .le)).trans ?_
      unfold BoundLine.ofCut?
      simp only [readLimit_write lower, readLimit_write upper]
      rfl
    · rw [if_neg bounded] at words ⊢
      rw [if_neg (not_or.2 ⟨free, bounded⟩)]
      refine BoundLine.read_of_related (related words) ?_ isName.valid
      refine (congrArg BoundLine.ofCut? (splitRelations_one token isName.token .le)).trans ?_
      unfold BoundLine.ofCut?
      simp only [readLimit_write lower]
      rfl

theorem apply_boundLine {c : ProblemColumn} (upper : IsLimit c.upper) :
    (boundLine c).apply (VariableTable.fresh c.name) =
      ⟨c.name, c.lower, c.upper, .continuous⟩ := by
  unfold boundLine BoundLine.apply
  split
  · rfl
  · rename_i absent
    rw [eq_infinity_of_not_lt upper.number (not_or.1 absent).2]
    rfl

end LinProg.Lp
