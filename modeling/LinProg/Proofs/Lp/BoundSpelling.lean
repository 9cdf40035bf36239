import Mathlib
import LinProg.Proofs.Lp.DeclaredBounds
import LinProg.Proofs.Lp.Expression
import LinProg.Proofs.Lp.ReadLines
import LinProg.Proofs.Lp.Spelling

/-!
# Spellings of bounds

A bound line has many spellings: a name between two numbers in either direction, or a name and a number in
either order.  All of them say the same, and each side of a variable is what the last line says that sets it
(`bound_of_spelling`).
-/

namespace LinProg.Lp
open Number (isNumber)
open Operation (reading_bind_ok_iff reading_map_ok_iff)

structure Quantity where
  text : List Char
  value : Float
  read : Number.read text = .ok value

/-- The limit for which a number stands: a large number stands for the infinity of its sign. -/
def Quantity.limit (a : Quantity) : Float :=
  if infiniteFrom ≤ a.value.abs then
    if Number.isNegative a.value then -Number.infinity else Number.infinity
  else a.value

/-- A name in a bound line, where it must be neither a number nor the word `free`. -/
structure BoundName extends Identifier where
  bound : isWord "free" text = false

/-- A text spells a bound line, which sets some sides of a variable. -/
inductive Spells : BoundLine → List Char → Prop where
  | upward {a b : Quantity} {name : BoundName} {text : List Char} :
      Spelled ⟨a.text, [(.le, name.text), (.le, b.text)]⟩ text →
      Spells ⟨name.text, some a.limit, some b.limit⟩ text
  | downward {a b : Quantity} {name : BoundName} {text : List Char} :
      Spelled ⟨b.text, [(.ge, name.text), (.ge, a.text)]⟩ text →
      Spells ⟨name.text, some a.limit, some b.limit⟩ text
  | nameFirst {a : Quantity} {name : BoundName} {text : List Char} (r : Relation) :
      Spelled ⟨name.text, [(r, a.text)]⟩ text →
      Spells ⟨name.text, if r = .le then none else some a.limit,
        if r = .ge then none else some a.limit⟩ text
  | numberFirst {a : Quantity} {name : BoundName} {text : List Char} (r : Relation) :
      Spelled ⟨a.text, [(r.reverse, name.text)]⟩ text →
      Spells ⟨name.text, if r = .le then none else some a.limit,
        if r = .ge then none else some a.limit⟩ text

/-! ### Operands -/

theorem isPlain_of_isNumberChar {c : Char} (char : Number.isNumberChar c = true) :
    isPlain c = true := by
  have solid := Number.isBlank_of_isNumberChar char
  have marks : lineMarks.all (fun c => !Number.isNumberChar c) = true := by decide +kernel
  unfold isPlain
  rw [solid, Bool.not_false, Bool.true_and, Bool.not_eq_true', List.contains_eq_mem,
    decide_eq_false_iff_not]
  intro mark
  have other := List.all_eq_true.1 marks c mark
  rw [char] at other
  cases other

theorem IsToken.of_isNumber {w : List Char} (number : isNumber w = true) : IsToken w := by
  refine ⟨?_, fun c member => isPlain_of_isNumberChar (Number.isNumberChar_of_isNumber number c member)⟩
  rintro rfl
  cases number

theorem IsToken.operand {w : List Char} (token : IsToken w) : IsOperand w :=
  ⟨fun c member => not_mark_of_isPlain (token.2 c member),
    trim_of_isToken token⟩

namespace Quantity

theorem number (a : Quantity) : isNumber a.text = true := by
  unfold isNumber
  rw [a.read]
  rfl

theorem token (a : Quantity) : IsToken a.text := .of_isNumber a.number

theorem readLimit_eq (a : Quantity) : readLimit a.text = some a.limit := by
  have positive : 0 < infiniteFrom := by decide +kernel
  have large := @Number.le_abs_iff infiniteFrom a.value positive
  unfold readLimit limit
  rw [trim_of_isToken a.token, a.read]
  dsimp only
  by_cases above : infiniteFrom ≤ a.value
  · have sign := Number.isNegative_of_sign (Number.sign?_of_le positive above)
    rw [if_pos above, if_pos (large.2 (.inl above)), sign]
    rfl
  · rw [if_neg above]
    by_cases below : a.value ≤ -infiniteFrom
    · have sign := Number.isNegative_of_sign (Number.sign?_of_le_neg positive below)
      rw [if_pos below, if_pos (large.2 (.inr below)), sign]
      rfl
    · rw [if_neg below, if_neg (mt large.1 (not_or.2 ⟨above, below⟩))]

end Quantity

/-! ### Free lines -/

theorem toLower_mem_of_isWord {word : String} {w : List Char} (same : isWord word w = true) :
    ∀ c ∈ w, c.toLower ∈ word.toList := by
  intro c member
  rw [← of_decide_eq_true same, String.toList_ofList]
  exact List.mem_map_of_mem member

theorem not_isNumber_of_free {w : List Char} (free : isWord "free" w = true) :
    isNumber w = false := by
  -- no number has the letter r in it
  have letters : w.map Char.toLower = ['f', 'r', 'e', 'e'] := by
    have same := congrArg String.toList (of_decide_eq_true free)
    rwa [String.toList_ofList] at same
  have second : ∃ c ∈ w, c.toLower = 'r' := List.mem_map.1 (letters ▸ by simp)
  obtain ⟨c, member, letter⟩ := second
  refine Bool.eq_false_iff.2 fun number => ?_
  have char := Number.isNumberChar_of_isNumber number c member
  unfold Number.isNumberChar at char
  rw [letter] at char
  rcases Bool.or_eq_true_iff.1 char with numeral | other
  · rcases Bool.or_eq_true_iff.1 numeral with digit | mark
    · rw [← Number.toLower_of_isDigit digit, letter] at digit
      cases digit
    · have others : ['.', 'e', 'E', '-', '+'].all (·.toLower != 'r') = true := by decide
      have differs := List.all_eq_true.1 others c (List.contains_iff_mem.1 mark)
      rw [letter] at differs
      cases differs
  · exact absurd other (by decide)

/-- An operand that does not make a line free. -/
structure IsBoundOperand (w : List Char) : Prop where
  token : IsToken w
  bound : isWord "free" w = false

theorem Quantity.operand (a : Quantity) : IsBoundOperand a.text := by
  refine ⟨a.token, Bool.eq_false_iff.2 fun free => ?_⟩
  have number := a.number
  rw [not_isNumber_of_free free] at number
  cases number

theorem BoundName.operand (name : BoundName) : IsBoundOperand name.text :=
  ⟨.of_isValidName name.valid, name.bound⟩

theorem isFreeLine_of_spelled {k : Cut} {text : List Char} (spelled : Spelled k text)
    (operands : ∀ w ∈ k.operands, IsBoundOperand w) : isFreeLine text = false := by
  have words : ∀ w ∈ Text.words text, isWord "free" w = false := by
    intro w listed
    rcases spelled.word_cases listed with ⟨c, inside, mark⟩ | ⟨v, operand, inside⟩
    · refine Bool.eq_false_iff.2 fun free => ?_
      have solid : relationMarks.all (fun c => c.toLower ∉ "free".toList) = true := by decide
      exact of_decide_eq_true (List.all_eq_true.1 solid c mark) (toLower_mem_of_isWord free c inside)
    · have plain := operands v operand
      rw [Text.words_of_word plain.token.word, List.mem_singleton] at inside
      rw [inside]
      exact plain.bound
  unfold isFreeLine
  split
  · rename_i name word shape
    exact words word (by simp [shape])
  · rfl

/-! ### Bound lines -/

theorem BoundLine.read_of_spelled {line : BoundLine} {k : Cut} {text : List Char}
    (spelled : Spelled k text) (operands : ∀ w ∈ k.operands, IsBoundOperand w)
    (cuts : ofCut? k = some line) (valid : isValidName line.name = true) :
    BoundLine.read text = .ok line := by
  have plain : ∀ w ∈ k.operands, IsOperand w := fun w listed => (operands w listed).token.operand
  have separated : k.Separated := fun operand listed =>
    (operands operand.2 (List.mem_cons_of_mem _ (List.mem_map_of_mem
      (List.mem_of_mem_dropLast listed)))).token.1
  refine read_of_related (isFreeLine_of_spelled spelled operands) ?_ valid
  rw [splitRelations_of_spelled spelled plain separated]
  exact cuts

theorem BoundName.readLimit_eq (name : BoundName) : readLimit name.text = none := by
  rw [← Option.isNone_iff_eq_none, ← Option.not_isSome, isNumber_of_readLimit,
    trim_of_isToken name.operand.token, name.other]
  rfl

/-- A spelling is a cut of operands that are read as the bound line, in some layout. -/
theorem Spells.exists_cut {line : BoundLine} {text : List Char} (spells : Spells line text) :
    ∃ k : Cut, (∀ w ∈ k.operands, IsBoundOperand w) ∧ k.rest ≠ [] ∧ BoundLine.ofCut? k = some line ∧
      isValidName line.name = true ∧ Spelled k text ∧ ∀ other, Spelled k other → Spells line other := by
  cases spells with
  | @upward a b name _ spelled =>
    refine ⟨_, ?_, List.cons_ne_nil _ _, ?_, name.valid, spelled, fun _ => .upward⟩
    · simp [Cut.operands, a.operand, b.operand, name.operand]
    · simp only [BoundLine.ofCut?, a.readLimit_eq, b.readLimit_eq]
      rfl
  | @downward a b name _ spelled =>
    refine ⟨_, ?_, List.cons_ne_nil _ _, ?_, name.valid, spelled, fun _ => .downward⟩
    · simp [Cut.operands, a.operand, b.operand, name.operand]
    · simp only [BoundLine.ofCut?, a.readLimit_eq, b.readLimit_eq]
      rfl
  | @nameFirst a name _ r spelled =>
    refine ⟨_, ?_, List.cons_ne_nil _ _, ?_, name.valid, spelled, fun _ => .nameFirst r⟩
    · simp [Cut.operands, a.operand, name.operand]
    · simp only [BoundLine.ofCut?, a.readLimit_eq, name.readLimit_eq, Option.map_some]
      cases r <;> rfl
  | @numberFirst a name _ r spelled =>
    refine ⟨_, ?_, List.cons_ne_nil _ _, ?_, name.valid, spelled, fun _ => .numberFirst r⟩
    · simp [Cut.operands, a.operand, name.operand]
    · simp only [BoundLine.ofCut?, a.readLimit_eq, Relation.reverse_reverse]
      cases r <;> rfl

theorem read_of_spells {line : BoundLine} {text : List Char} (spells : Spells line text) :
    BoundLine.read text = .ok line := by
  obtain ⟨k, operands, -, cuts, valid, spelled, -⟩ := spells.exists_cut
  exact BoundLine.read_of_spelled spelled operands cuts valid

/-- A line that spells a bound has no comment and is no keyword, and what is left without the white space
around it spells the same. -/
theorem Spells.content {line : BoundLine} {raw : List Char} (spells : Spells line raw) :
    splitComment raw = (Text.trim raw, none) ∧ Spells line (Text.trim raw) ∧ Text.trim raw ≠ [] ∧
      sectionKeyword (Text.trim raw) = none ∧ isWord "end" (Text.trim raw) = false := by
  obtain ⟨k, operands, related, -, -, spelled, respelled⟩ := spells.exists_cut
  have trimmed := spelled.trim fun w listed => (operands w listed).token.word
  obtain ⟨c, member, mark⟩ := trimmed.exists_mark related
  have strange : c ∈ strangeMarks := by
    simp only [relationMarks, List.mem_cons, List.not_mem_nil, or_false] at mark
    rcases mark with rfl | rfl | rfl <;> decide
  have bare : '\\' ∉ raw := by
    intro comment
    rcases spelled.char_cases comment with blank | mark | ⟨w, listed, inside⟩
    · exact absurd blank (by decide)
    · exact absurd mark (by decide)
    · exact absurd ((operands w listed).token.2 _ inside) (by decide)
  refine ⟨?_, respelled _ trimmed, List.ne_nil_of_mem member, not_keyword_of_mem strange member⟩
  unfold splitComment
  rw [Text.splitOnce_eq_none bare]

/-! ### Texts -/

/-- What a line sets a side of a variable to, if it does. -/
def BoundLine.setting? (line : BoundLine) (name : String) (side : Side) : Option Float :=
  if String.ofList line.name = name then line.bound? side else none

/-- The bound lines among some lines spell `bounds`, in order. -/
inductive SpellsBounds : List BoundLine → List Statement → Prop where
  | nil : SpellsBounds [] []
  | bound {b : BoundLine} {bounds : List BoundLine} {line : Statement} {lines : List Statement} :
      line.stage = .bounds → Spells b line.text → SpellsBounds bounds lines →
      SpellsBounds (b :: bounds) (line :: lines)
  | other {bounds : List BoundLine} {line : Statement} {lines : List Statement} :
      line.stage ≠ .bounds → SpellsBounds bounds lines → SpellsBounds bounds (line :: lines)

namespace SpellsBounds

variable {b : BoundLine} {bounds : List BoundLine} {line : Statement} {lines : List Statement}

theorem exists_bound (spelled : SpellsBounds bounds lines) (listed : line ∈ lines)
    (stage : line.stage = .bounds) : ∃ b, Spells b line.text := by
  induction spelled with
  | nil => cases listed
  | @bound b _ _ _ _ spells _ ih =>
    rcases List.mem_cons.1 listed with rfl | listed
    · exact ⟨b, spells⟩
    · exact ih listed
  | other stage' _ ih =>
    rcases List.mem_cons.1 listed with rfl | listed
    · exact absurd stage stage'
    · exact ih listed

theorem exists_line (spelled : SpellsBounds bounds lines) (listed : b ∈ bounds) :
    ∃ line ∈ lines, line.stage = .bounds ∧ Spells b line.text := by
  induction spelled with
  | nil => cases listed
  | bound stage spells _ ih =>
    rcases List.mem_cons.1 listed with rfl | listed
    · exact List.exists_mem_cons_of _ ⟨stage, spells⟩
    · exact List.exists_mem_cons_of_exists (ih listed)
  | other _ _ ih => exact List.exists_mem_cons_of_exists (ih listed)

theorem settings_eq (spelled : SpellsBounds bounds lines) (side : Side) (name : String) :
    settings side name lines = bounds.filterMap (·.setting? name side) := by
  induction spelled with
  | nil => rfl
  | @bound b bounds line lines stage spells _ ih =>
    have set : (line.boundLine? name).bind (·.bound? side) = b.setting? name side := by
      unfold Statement.boundLine? BoundLine.setting?
      rw [if_pos stage, read_of_spells spells]
      by_cases same : String.ofList b.name = name
      · simp [Except.toOption, Option.filter, same]
      · simp [Except.toOption, Option.filter, same]
    rw [settings_cons, ih, set, List.filterMap_cons]
    cases b.setting? name side <;> rfl
  | @other _ line _ stage _ ih =>
    have silent : line.boundLine? name = none := if_neg stage
    rw [settings_cons, ih, silent]
    rfl

/-- In a section of bounds, lines that spell bounds are statements that do so. -/
theorem of_lines {raws : List (List Char)} (spells : List.Forall₂ Spells bounds raws) :
    SpellsBounds bounds (statementsFrom .bounds raws) := by
  induction spells with
  | nil => exact .nil
  | cons first _ ih =>
    obtain ⟨split, respelled, nonempty, notKeyword, notEnd⟩ := first.content
    unfold statementsFrom
    rw [split]
    dsimp only
    rw [if_neg nonempty, notEnd, if_neg Bool.false_ne_true, notKeyword]
    exact .bound rfl respelled ih

end SpellsBounds

/-- Lines that are all taken in their sections are read to the end. -/
theorem ReadState.readLines_ok {lines : List (List Char)} {n : Nat} {s : ReadState}
    (taken : ∀ line ∈ statementsFrom s.stage lines, ∀ u : ReadState, u.stage = line.stage →
      ∃ t, u.takeContent line.text = .ok t) : ∃ t, Lp.readLines n s lines = .ok t := by
  induction lines generalizing n s with
  | nil => exact ⟨s, rfl⟩
  | cons raw lines ih =>
    rw [statementsFrom, ← stage_noted s (splitComment raw).2] at taken
    rw [readLines_cons]
    by_cases empty : (splitComment raw).1 = []
    · rw [if_pos empty] at taken ⊢
      exact ih taken
    rw [if_neg empty] at taken ⊢
    by_cases last : isWord "end" (splitComment raw).1 = true
    · rw [if_pos last]
      exact ⟨_, rfl⟩
    rw [if_neg last] at taken ⊢
    cases keyword : sectionKeyword (splitComment raw).1 with
    | some opening =>
      rw [keyword] at taken
      exact ih taken
    | none =>
      rw [keyword] at taken
      obtain ⟨first, others⟩ := List.forall_mem_cons.1 taken
      obtain ⟨t, content⟩ := first _ rfl
      dsimp only
      rw [content]
      rw [← stage_takeContent content] at others
      exact ih others

theorem SpellsBounds.exists_read {text : String} {bounds : List BoundLine}
    (spelled : SpellsBounds bounds (statements text))
    (only : ∀ line ∈ statements text, line.stage = .bounds) : ∃ d, read text = .ok d := by
  have taken : ∀ line ∈ statements text, ∀ u : ReadState, u.stage = line.stage →
      ∃ t, u.takeContent line.text = .ok t := by
    intro line listed u stage
    obtain ⟨b, spells⟩ := spelled.exists_bound listed (only line listed)
    have content : u.takeContent line.text = u.takeBound line.text := by
      unfold ReadState.takeContent
      rw [stage, only line listed]
    exact ⟨_, content.trans (reading_bind_ok_iff.2 ⟨b, read_of_spells spells, rfl⟩)⟩
  obtain ⟨s, reading⟩ := ReadState.readLines_ok (n := 1) (s := .start) taken
  exact ⟨s.document, reading_map_ok_iff.2 ⟨s, reading, rfl⟩⟩

/-- A bound line reads the same in each of its spellings, and so do the lines of a section of bounds.  A text
whose lines all spell bounds is accepted, and in every accepted text each side of a variable is as the last
bound line that sets it says: zero and infinity if there is none.  A line of `Binaries` may cut it, too. -/
theorem bound_of_spelling :
    (∀ line text, Spells line text → BoundLine.read text = .ok line) ∧
    (∀ bounds raws, List.Forall₂ Spells bounds raws →
      SpellsBounds bounds (statementsFrom .bounds raws)) ∧
    ∀ (text : String) (bounds : List BoundLine), SpellsBounds bounds (statements text) →
      ((∀ line ∈ statements text, line.stage = .bounds) → ∃ d, read text = .ok d) ∧
      ∀ d, read text = .ok d →
        (∀ b ∈ bounds, String.ofList b.name ∈ d.declared.map (·.name)) ∧
        ∀ v ∈ d.declared, (∀ line ∈ statements text, ¬line.ListsBinary v.name) →
          v.lower = (bounds.filterMap (·.setting? v.name .lower)).getLast?.getD 0 ∧
          v.upper = (bounds.filterMap (·.setting? v.name .upper)).getLast?.getD Number.infinity := by
  refine ⟨fun _ _ => read_of_spells, fun _ _ => .of_lines, fun text bounds spelled =>
    ⟨spelled.exists_read, fun d accepted => ⟨?_, fun v declared unlisted => ?_⟩⟩⟩
  · intro b listed
    obtain ⟨line, member, stage, spells⟩ := spelled.exists_line listed
    refine ((read_accounts accepted).listed _).2 ⟨line, member, ?_⟩
    unfold Statement.names
    rw [stage, BoundLine.read_name (read_of_spells spells)]
    exact List.mem_singleton_self _
  · have shape := eq_foldl_effect accepted declared
    have sides := bound_of_lines unlisted (VariableTable.fresh v.name)
    rw [← shape] at sides
    have lower : v.lower = _ := sides .lower
    have upper : v.upper = _ := sides .upper
    rw [spelled.settings_eq] at lower upper
    exact ⟨lower, upper⟩

def respelledText : String := "Bounds\n -1e31 =<x<2\n 7=> x\nEnd\n"

theorem bound_of_spelling_respelledText :
    ∃ d, read respelledText = .ok d ∧
      ∃ v ∈ d.declared, v.name = "x" ∧ v.lower = -Number.infinity ∧ v.upper = 7 := by
  let x : BoundName := ⟨⟨['x'], by decide +kernel, by decide +kernel⟩, by decide +kernel⟩
  let low : Quantity := ⟨['-', '1', 'e', '3', '1'], -1e31, by decide +kernel⟩
  let two : Quantity := ⟨['2'], 2, by decide +kernel⟩
  let seven : Quantity := ⟨['7'], 7, by decide +kernel⟩
  have empty : Text.IsSpace [] := by simp [Text.IsSpace]
  have blank : Text.IsSpace [' '] := by simp [Text.IsSpace, Text.isBlank]
  have relation : ['=', '<'] ∈ spellings .le := by decide
  have relation' : ['<'] ∈ spellings .le := by decide
  have relation'' : ['=', '>'] ∈ spellings .ge := by decide
  have lines : statements respelledText =
      [⟨.bounds, "-1e31 =<x<2".toList⟩, ⟨.bounds, "7=> x".toList⟩] := by rfl
  have first : Spells ⟨x.text, some low.limit, some two.limit⟩ "-1e31 =<x<2".toList :=
    .upward (.relation empty blank relation (.relation empty empty relation' (.last empty empty)))
  have second : Spells ⟨x.text, none, some seven.limit⟩ "7=> x".toList :=
    .numberFirst .le (.relation empty empty relation'' (.last blank empty))
  have spelled : SpellsBounds [⟨x.text, some low.limit, some two.limit⟩,
      ⟨x.text, none, some seven.limit⟩] (statements respelledText) := by
    rw [lines]
    exact .bound rfl first (.bound rfl second .nil)
  have only : ∀ line ∈ statements respelledText, line.stage = .bounds := by
    rw [lines]
    simp
  obtain ⟨-, -, whole⟩ := bound_of_spelling
  obtain ⟨exists_read, sides⟩ := whole respelledText _ spelled
  obtain ⟨d, accepted⟩ := exists_read only
  obtain ⟨listed, sides⟩ := sides d accepted
  obtain ⟨v, declared, name⟩ := List.mem_map.1 (listed _ List.mem_cons_self)
  have unlisted : ∀ line ∈ statements respelledText, ¬line.ListsBinary v.name :=
    fun line member binary => by cases (only line member).symm.trans binary.1
  obtain ⟨lower, upper⟩ := sides v declared unlisted
  rw [name] at lower upper
  refine ⟨d, accepted, v, declared, name.trans (by decide), lower.trans ?_, upper.trans ?_⟩
  · decide +kernel
  · decide +kernel

end LinProg.Lp
