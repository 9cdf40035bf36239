import Mathlib
import LinProg.Proofs.Lp.Signs

/-!
# The value of an expression

An expression is a row of items, each a term or a constant behind some signs.  Signs may be glued to each
other and to what follows or stand apart in any white space, which makes no difference to what is read
(`readTerms_layout`).
-/

namespace LinProg.Lp
open Number (isSign isNumber)
open Text (IsSpace IsWordText isBlank)

/-! ### Items -/

def Signs : Type := { cs : List Char // ∀ c ∈ cs, isSign c = true }

structure Numeral where
  text : List Char
  value : Float
  read : Number.read text = .ok value
  unsigned : ∀ c ∈ text.head?, isSign c = false

/-- A name in an expression, where it must not be a number. -/
structure Identifier where
  text : List Char
  valid : isValidName text = true
  other : isNumber text = false

inductive Item where
  | term (signs : Signs) (number : Option Numeral) (identifier : Identifier)
  | constant (signs : Signs) (number : Numeral)

/-- A sign, or a run of characters that must end at white space. -/
inductive Atom where
  | sign (c : Char)
  | word (w : List Char)

/-- Atoms in order, in any white space.  Only words need white space after them. -/
inductive Layout : List Atom → List Char → Prop where
  | nil {space : List Char} : IsSpace space → Layout [] space
  | sign {space rest : List Char} {c : Char} {atoms : List Atom} : IsSpace space →
      Layout atoms rest → Layout (.sign c :: atoms) (space ++ c :: rest)
  | word {space w rest : List Char} {atoms : List Atom} : IsSpace space → Layout atoms rest →
      (∀ c, rest.head? = some c → isBlank c = true) →
      Layout (.word w :: atoms) (space ++ (w ++ rest))

namespace Item

def signs : Item → List Char
  | term signs .. | constant signs _ => signs.1

def operand : Item → List Atom
  | term _ none name => [.word name.text]
  | term _ (some number) name => [.word number.text, .word name.text]
  | constant _ number => [.word number.text]

def atoms (item : Item) : List Atom := item.signs.map .sign ++ item.operand

/-- The term of an item.  Its coefficient is one if no number is given. -/
def term? : Item → Option (String × Float)
  | term signs number name =>
    some (String.ofList name.text, signed signs.1 (number.elim 1 Numeral.value))
  | constant .. => none

def constant? : Item → Option Float
  | term .. => none
  | constant signs number => some (signed signs.1 number.value)

/-- What may follow an item: after a constant there must be a sign. -/
def Precedes : Item → Item → Prop
  | term .., _ => True
  | constant .., next => next.signs ≠ []

theorem isSign_of_mem_signs (item : Item) : ∀ c ∈ item.signs, isSign c = true := by
  cases item with
  | term signs number name => exact signs.2
  | constant signs number => exact signs.2

end Item

theorem Numeral.word (number : Numeral) : IsWordText number.text := by
  have isNumber : isNumber number.text = true := by
    unfold Number.isNumber
    rw [number.read]
    rfl
  refine ⟨?_, Number.isBlank_of_isNumber isNumber⟩
  intro empty
  rw [empty] at isNumber
  cases isNumber

theorem Identifier.unsigned (name : Identifier) : ∀ c ∈ name.text.head?, isSign c = false := by
  obtain ⟨c, cs, shape, plain⟩ := exists_cons_of_isValidName name.valid
  rw [shape]
  rintro _ ⟨⟩
  simpa [isSign] using plain

/-! ### Reading -/

namespace TermState

variable {s t : TermState} {atoms : List Atom} {text w : List Char}

theorem readOn_signs {signs : List Char} (all : ∀ c ∈ signs, isSign c = true)
    (layout : Layout (signs.map .sign ++ atoms) text) (s : TermState) :
    ∃ rest, Layout atoms rest ∧ s.readOn text = (signs.foldl takeSign s).readOn rest := by
  induction signs generalizing s text with
  | nil => exact ⟨text, layout, rfl⟩
  | cons c signs ih =>
    obtain ⟨sign, others⟩ := List.forall_mem_cons.1 all
    cases layout with
    | sign space layout =>
      obtain ⟨rest, layout, read⟩ := ih others layout (s.takeSign c)
      exact ⟨rest, layout, by rw [readOn_space space, readOn_sign sign, read, List.foldl_cons]⟩

theorem readOn_operand (word : IsWordText w) (unsigned : ∀ c ∈ w.head?, isSign c = false)
    (layout : Layout (.word w :: atoms) text) (taken : s.takeOperand w = .ok t) :
    ∃ rest, Layout atoms rest ∧ s.readOn text = t.readOn rest := by
  cases layout with
  | word space layout ends =>
    refine ⟨_, layout, ?_⟩
    rw [readOn_space space, readOn_word word unsigned ends, taken]
    rfl

/-- What the signs of an item leave, be it that they close a constant or that there are none. -/
theorem foldl_takeSign_ready {terms : List (String × Float)} {constant : Float} {signs : List Char}
    (ready : s.closed = ⟨terms, constant, 1, none⟩) (first : s.pending = none ∨ signs ≠ []) :
    signs.foldl takeSign s = ⟨terms, constant, signed signs 1, none⟩ := by
  by_cases any : signs = []
  · subst any
    have none : s.pending = none := first.resolve_right (fun any => any rfl)
    rw [closed_of_pending none] at ready
    exact ready
  · rw [foldl_takeSign_closed signs any, ready]

/-- Reading an item takes a state without a sign left to such a state, and adds what the item says. -/
theorem readOn_item {item : Item} {terms : List (String × Float)} {constant : Float}
    (ready : s.closed = ⟨terms, constant, 1, none⟩)
    (first : s.pending = none ∨ item.signs ≠ []) (layout : Layout (item.atoms ++ atoms) text) :
    ∃ (t : TermState) (rest : List Char), Layout atoms rest ∧ s.readOn text = t.readOn rest ∧
      t.closed = ⟨terms ++ item.term?.toList, item.constant?.elim constant (constant + ·), 1, none⟩ ∧
      (t.pending = none ∨ item.term? = none) := by
  rw [Item.atoms, List.append_assoc] at layout
  obtain ⟨body, layout, signsRead⟩ := readOn_signs item.isSign_of_mem_signs layout s
  rw [foldl_takeSign_ready ready first] at signsRead
  cases item with
  | term signs number name =>
    cases number with
    | none =>
      obtain ⟨rest, layout, read⟩ := readOn_operand (IsToken.of_isValidName name.valid).word
        name.unsigned layout (takeOperand_name name.valid name.other)
      refine ⟨_, rest, layout, signsRead.trans read, ?_, .inl rfl⟩
      show (⟨_ ++ [(_, signed signs.1 1 * 1)], _, _, _⟩ : TermState) = _
      rw [signed_mul]
      rfl
    | some number =>
      obtain ⟨middle, layout, numberRead⟩ := readOn_operand number.word number.unsigned layout
        (takeOperand_number number.read)
      obtain ⟨rest, layout, read⟩ := readOn_operand (IsToken.of_isValidName name.valid).word
        name.unsigned layout (takeOperand_name name.valid name.other)
      refine ⟨_, rest, layout, signsRead.trans (numberRead.trans read), ?_, .inl rfl⟩
      show (⟨_ ++ [(_, signed signs.1 1 * number.value)], _, _, _⟩ : TermState) = _
      rw [signed_mul]
      rfl
  | constant signs number =>
    obtain ⟨rest, layout, read⟩ := readOn_operand number.word number.unsigned layout
      (takeOperand_number number.read)
    refine ⟨_, rest, layout, signsRead.trans read, ?_, .inr rfl⟩
    show (⟨terms, constant + signed signs.1 1 * number.value, 1, none⟩ : TermState) = _
    rw [signed_mul]
    simp [Item.term?, Item.constant?]

theorem readOn_items {items : List Item} {terms : List (String × Float)} {constant : Float}
    (ready : s.closed = ⟨terms, constant, 1, none⟩)
    (first : s.pending = none ∨ ∀ item ∈ items.head?, item.signs ≠ [])
    (row : items.IsChain Item.Precedes) (layout : Layout (items.flatMap Item.atoms) text) :
    s.readOn text = .ok (terms ++ items.filterMap Item.term?,
      (items.filterMap Item.constant?).foldl (· + ·) constant) := by
  induction items generalizing s terms constant text with
  | nil =>
    cases layout with
    | nil space =>
      rw [readOn_end (by rw [ready]) space, ready]
      simp
  | cons item items ih =>
    rw [List.flatMap_cons] at layout
    obtain ⟨t, rest, layout, read, ready, sort⟩ :=
      readOn_item ready (first.imp_right fun first => first item rfl) layout
    have next : t.pending = none ∨ ∀ next ∈ items.head?, next.signs ≠ [] := by
      refine sort.imp_right fun constant => ?_
      rintro next head
      have precedes := List.isChain_cons.1 row |>.1 next head
      cases item with
      | term => cases constant
      | constant => exact precedes
    rw [read, ih ready next (List.isChain_cons.1 row).2 layout, List.append_assoc]
    cases item <;> rfl

end TermState

/-- However an expression is laid out, it is read as its terms in order and the sum of its constants. -/
theorem readTerms_layout {items : List Item} {text : List Char} (row : items.IsChain Item.Precedes)
    (layout : Layout (items.flatMap Item.atoms) text) :
    readTerms text = .ok (items.filterMap Item.term?,
      (items.filterMap Item.constant?).foldl (· + ·) 0) :=
  TermState.readOn_items (s := .start) rfl (.inl rfl) row layout

/-- Two terms and two constants: `- - 2 x`, `+ - 3`, `y` and `- - inf`. -/
def mixedItems : List Item :=
  let two : Numeral := ⟨['2'], 2, by decide +kernel, by rintro _ ⟨⟩; rfl⟩
  let three : Numeral := ⟨['3'], 3, by decide +kernel, by rintro _ ⟨⟩; rfl⟩
  let inf : Numeral := ⟨['i', 'n', 'f'], Number.infinity, by decide +kernel, by rintro _ ⟨⟩; rfl⟩
  [.term ⟨['-', '-'], by simp [isSign]⟩ (some two) ⟨['x'], by decide +kernel, by decide +kernel⟩,
    .constant ⟨['+', '-'], by simp [isSign]⟩ three,
    .term ⟨['+'], by simp [isSign]⟩ none ⟨['y'], by decide +kernel, by decide +kernel⟩,
    .constant ⟨['-', '-'], by simp [isSign]⟩ inf]

theorem readTerms_layout_mixed :
    readTerms " --2 x +-3 + y -\t-inf".toList = .ok ([("x", 2), ("y", 1)], Number.infinity) := by
  have row : mixedItems.IsChain Item.Precedes := by
    unfold mixedItems
    simp [Item.Precedes, Item.signs]
  have blank : IsSpace [' '] := by simp [IsSpace, isBlank]
  have tab : IsSpace ['\t'] := by simp [IsSpace, isBlank]
  have none : IsSpace [] := by simp [IsSpace]
  have ends (rest : List Char) : ∀ c, (' ' :: rest).head? = some c → isBlank c = true := by
    rintro _ ⟨⟩
    rfl
  have last : ∀ c, ([] : List Char).head? = some c → isBlank c = true := by simp
  have layout : Layout (mixedItems.flatMap Item.atoms) " --2 x +-3 + y -\t-inf".toList :=
    .sign blank <| .sign none <| .word none (.word blank (.sign blank <| .sign none <|
      .word none (.sign blank <| .word blank (.sign blank <| .sign tab <|
        .word none (.nil none) last) (ends _)) (ends _)) (ends _)) (ends _)
  exact (readTerms_layout row layout).trans (by decide +kernel)

end LinProg.Lp
