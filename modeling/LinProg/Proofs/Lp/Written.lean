import Mathlib
import LinProg.Lp.Reader
import LinProg.Proofs.Lp.ReadBounds
import LinProg.Proofs.Lp.ReadLines
import LinProg.Proofs.Lp.Table

/-!
# Blocks of a written problem

`Problem.Writable` is what a problem needs for its text to be read back, and `Problem.document` is
what the text then says.  Each block of the text is read here in any state, with any text after it.
-/

namespace LinProg
open Lp (IsName IsTerm IsLimit IsLineWord ReadState shownTerms sumWords orPlaceholder)
open Text (spaced lines)

/-- What a text declares of a column.  A negative zero as the lower bound of a binary column reads
back as zero. -/
def ProblemColumn.declared (c : ProblemColumn) : Lp.Declared :=
  ⟨c.name, if c.domain = .binary ∧ (c.lower == 0) = true then 0 else c.lower, c.upper, c.domain⟩

namespace Problem

/-- The terms of a sum that are not zero, under the names of their columns; in place of an empty sum
stands the first column with coefficient zero, if there is one. -/
def writtenTerms (p : Problem) (terms : List (Nat × Float)) : List (String × Float) :=
  orPlaceholder (shownTerms (p.named terms)) (p.columns.head?.map (·.name))

/-- What the text of a problem says. -/
def document (p : Problem) : Lp.Document where
  name := p.name
  sense := p.sense
  objective := p.writtenTerms p.objective
  rows := p.rows.map fun row => ⟨row.name, p.writtenTerms row.terms, row.relation, row.rhs⟩
  declared := p.columns.map ProblemColumn.declared

/-- Terms that refer to columns, with coefficients that are numbers. -/
def IsSum (p : Problem) (terms : List (Nat × Float)) : Prop :=
  ∀ t ∈ terms, t.1 < p.columns.length ∧ t.2.isNaN = false

/-- A problem whose text can be read back. -/
structure Writable (p : Problem) : Prop where
  distinct : (p.columns.map (·.name)).Nodup
  names : ∀ c ∈ p.columns, IsName c.name
  rowNames : ∀ row ∈ p.rows, Lp.isValidName row.name.toList = true
  titled : p.name ≠ ""
  trimmed : Text.trim p.name.toList = p.name.toList
  oneLine : '\n' ∉ p.name.toList
  objective : p.IsSum p.objective
  terms : ∀ row ∈ p.rows, p.IsSum row.terms
  rhs : ∀ row ∈ p.rows, IsLimit row.rhs
  lower : ∀ c ∈ p.columns, IsLimit c.lower
  upper : ∀ c ∈ p.columns, IsLimit c.upper
  unit : ∀ c ∈ p.columns, c.domain = .binary → 0 ≤ c.lower ∧ c.upper ≤ 1

instance (p : Problem) (terms : List (Nat × Float)) : Decidable (p.IsSum terms) :=
  inferInstanceAs (Decidable (∀ t ∈ terms, t.1 < p.columns.length ∧ t.2.isNaN = false))

instance (p : Problem) : Decidable p.Writable :=
  decidable_of_iff
    ((p.columns.map (·.name)).Nodup ∧ (∀ c ∈ p.columns, IsName c.name) ∧
      (∀ row ∈ p.rows, Lp.isValidName row.name.toList = true) ∧ p.name ≠ "" ∧
      Text.trim p.name.toList = p.name.toList ∧ '\n' ∉ p.name.toList ∧ p.IsSum p.objective ∧
      (∀ row ∈ p.rows, p.IsSum row.terms) ∧ (∀ row ∈ p.rows, IsLimit row.rhs) ∧
      (∀ c ∈ p.columns, IsLimit c.lower) ∧ (∀ c ∈ p.columns, IsLimit c.upper) ∧
      ∀ c ∈ p.columns, c.domain = .binary → 0 ≤ c.lower ∧ c.upper ≤ 1)
    ⟨fun ⟨a, b, c, d, e, f, g, h, i, j, k, l⟩ => ⟨a, b, c, d, e, f, g, h, i, j, k, l⟩,
      fun ⟨a, b, c, d, e, f, g, h, i, j, k, l⟩ => ⟨a, b, c, d, e, f, g, h, i, j, k, l⟩⟩

variable {p : Problem}

/-! ### Sums -/

theorem columnName_mem {i : Nat} (inside : i < p.columns.length) :
    ∃ c ∈ p.columns, p.columnName i = c.name := by
  refine ⟨p.columns[i], List.getElem_mem inside, ?_⟩
  unfold columnName
  rw [List.getElem?_eq_getElem inside]

theorem isTerm_shown (h : p.Writable) {terms : List (Nat × Float)} (sum : p.IsSum terms) :
    ∀ t ∈ shownTerms (p.named terms), IsTerm t := by
  intro t member
  obtain ⟨listed, nonzero⟩ := List.mem_filter.1 member
  obtain ⟨⟨i, c⟩, inTerms, rfl⟩ := List.mem_map.1 listed
  obtain ⟨inside, number⟩ := sum (i, c) inTerms
  obtain ⟨column, inColumns, name⟩ := columnName_mem inside
  refine ⟨?_, number, ?_⟩
  · show IsName (p.columnName i)
    exact name ▸ h.names column inColumns
  · have other : (!(c == 0)) = true := nonzero
    rwa [Bool.not_eq_true'] at other

theorem isName_placeholder (h : p.Writable) :
    ∀ name ∈ p.columns.head?.map (·.name), IsName name := by
  intro name member
  obtain ⟨c, first, rfl⟩ := Option.mem_map.1 member
  exact h.names c (List.mem_of_head? first)

theorem name_mem_of_mem_writtenTerms {terms : List (Nat × Float)} (sum : p.IsSum terms) :
    ∀ t ∈ p.writtenTerms terms, t.1 ∈ p.columns.map (·.name) := by
  have shown : ∀ t ∈ shownTerms (p.named terms), t.1 ∈ p.columns.map (·.name) := by
    intro t member
    obtain ⟨⟨i, c⟩, inTerms, rfl⟩ := List.mem_map.1 (List.mem_filter.1 member).1
    obtain ⟨column, inColumns, name⟩ := columnName_mem (sum (i, c) inTerms).1
    exact List.mem_map.2 ⟨column, inColumns, name.symm⟩
  intro t member
  unfold writtenTerms orPlaceholder at member
  split at member
  · rename_i name _ placed
    obtain ⟨c, first, rfl⟩ := Option.map_eq_some_iff.1 placed
    rw [List.mem_singleton.1 member]
    exact List.mem_map_of_mem (List.mem_of_head? first)
  · exact shown t member

def termsWords (p : Problem) (terms : List (Nat × Float)) : List (List Char) :=
  sumWords (shownTerms (p.named terms)) (p.columns.head?.map (·.name))

theorem toList_termsText (p : Problem) (terms : List (Nat × Float)) :
    (p.termsText terms).toList = spaced (p.termsWords terms) :=
  Lp.toList_writeTerms ..

theorem isToken_termsWords (h : p.Writable) {terms : List (Nat × Float)} (sum : p.IsSum terms) :
    ∀ w ∈ p.termsWords terms, Lp.IsToken w :=
  Lp.IsToken.of_mem_sumWords (isTerm_shown h sum) (isName_placeholder h)

theorem termsWords_ne_nil (p : Problem) (terms : List (Nat × Float)) : p.termsWords terms ≠ [] :=
  Lp.sumWords_ne_nil _ _

theorem readTerms_termsWords (h : p.Writable) {terms : List (Nat × Float)} (sum : p.IsSum terms) :
    Lp.readTerms (spaced (p.termsWords terms)) = .ok (p.writtenTerms terms, 0) :=
  Lp.readTerms_spaced (isTerm_shown h sum) (isName_placeholder h)

/-! ### The objective -/

/-- The state after the objective block. -/
def afterObjective (p : Problem) (s : ReadState) : ReadState :=
  { s with
    stage := .objective
    sense := p.sense
    objective := s.objective ++ p.writtenTerms p.objective
    table := s.table.enterTerms (p.writtenTerms p.objective) }

def objectiveWords (p : Problem) : List (List Char) := "obj:".toList :: p.termsWords p.objective

def senseWord : Sense → List Char
  | .minimize => "Minimize".toList
  | .maximize => "Maximize".toList

theorem toList_objectiveText (p : Problem) :
    p.objectiveText.toList = spaced [senseWord p.sense] ++ '\n' ::
      ("  ".toList ++ spaced p.objectiveWords ++ ['\n']) := by
  unfold objectiveText objectiveWords
  rw [Text.spaced_cons (termsWords_ne_nil p _), Text.spaced_singleton, String.toList_append,
    String.toList_append, toList_termsText]
  cases p.sense with
  | minimize | maximize => rfl

theorem isLineWord_objectiveWords (h : p.Writable) :
    ∀ w ∈ p.objectiveWords, IsLineWord w := by
  intro w listed
  rcases List.mem_cons.1 listed with rfl | listed
  · exact .of_all (by decide) (by decide)
  · exact (isToken_termsWords h h.objective w listed).lineWord

theorem takeObjective_words (h : p.Writable) (s : ReadState) :
    s.takeObjective (spaced p.objectiveWords) = .ok { s with
      objective := s.objective ++ p.writtenTerms p.objective
      table := s.table.enterTerms (p.writtenTerms p.objective) } := by
  have label : ReadState.splitLabel (spaced p.objectiveWords) =
      (some "obj".toList, ' ' :: spaced (p.termsWords p.objective)) := by
    unfold objectiveWords
    rw [Text.spaced_cons (termsWords_ne_nil p _)]
    rfl
  have terms : Lp.readTerms (' ' :: spaced (p.termsWords p.objective)) =
      .ok (p.writtenTerms p.objective, 0) := readTerms_termsWords h h.objective
  unfold ReadState.takeObjective
  rw [label, terms]
  rfl

theorem readLines_senseWord (sense : Sense) (s : ReadState) (n : Nat) (rest : List Char) :
    Lp.readLines n s (lines (spaced [senseWord sense] ++ '\n' :: rest)) =
      Lp.readLines (n + 1) (s.openSection .objective sense) (lines rest) := by
  cases sense with
  | minimize | maximize =>
    refine Lp.readLines_keyword [_] (List.cons_ne_nil _ _) (fun w listed => ?_) (by decide)
      (by decide) n rest
    rw [List.mem_singleton.1 listed]
    exact .of_all (by decide) (by decide)

theorem readLines_objectiveText (h : p.Writable) (s : ReadState) (n : Nat) (rest : List Char) :
    Lp.readLines n s (lines (p.objectiveText.toList ++ rest)) =
      Lp.readLines (n + 2) (p.afterObjective s) (lines rest) := by
  have colon : ':' ∈ spaced p.objectiveWords :=
    Text.mem_spaced_of_mem (List.mem_cons_self ..) (by decide)
  have mark := Lp.not_keyword_of_mem (by decide) colon
  have taken := takeObjective_words h (s.openSection .objective p.sense)
  have line := Lp.readLines_content Lp.eq_blank_of_mem_indent (List.cons_ne_nil _ _)
    (isLineWord_objectiveWords h) mark.1 mark.2
    (show (s.openSection .objective p.sense).takeContent _ = _ from taken) (n + 1) rest
  rw [toList_objectiveText, List.append_assoc, List.cons_append, readLines_senseWord,
    List.append_assoc]
  exact line

/-! ### Rows -/

def writtenRow (p : Problem) (row : ProblemRow) : Lp.Row :=
  ⟨row.name, p.writtenTerms row.terms, row.relation, row.rhs⟩

/-- The state after the line of a row. -/
def afterRow (p : Problem) (s : ReadState) (row : ProblemRow) : ReadState :=
  { s with
    rows := s.rows ++ [p.writtenRow row]
    table := s.table.enterTerms (p.writtenTerms row.terms) }

def rowWords (p : Problem) (row : ProblemRow) : List (List Char) :=
  (row.name.toList ++ [':']) ::
    (p.termsWords row.terms ++ [row.relation.symbol.toList, (Number.write row.rhs).toList])

theorem spaced_rowWords (p : Problem) (row : ProblemRow) :
    spaced (p.rowWords row) = row.name.toList ++ ':' :: ' ' ::
      (spaced (p.termsWords row.terms) ++ ' ' ::
        (row.relation.symbol.toList ++ ' ' :: (Number.write row.rhs).toList)) := by
  have more : p.termsWords row.terms ++
      [row.relation.symbol.toList, (Number.write row.rhs).toList] ≠ [] := fun empty =>
    termsWords_ne_nil p _ (List.append_eq_nil_iff.1 empty).1
  unfold rowWords
  rw [Text.spaced_cons more, Text.spaced_append (termsWords_ne_nil p _) (List.cons_ne_nil _ _),
    Text.spaced_cons (List.cons_ne_nil _ _), Text.spaced_singleton, List.append_assoc,
    List.singleton_append]

theorem toList_rowText (p : Problem) (row : ProblemRow) :
    (p.rowText row).toList = "  ".toList ++ spaced (p.rowWords row) ++ ['\n'] := by
  unfold rowText
  rw [spaced_rowWords]
  simp only [String.toList_append, toList_termsText, List.append_assoc, List.cons_append]
  rfl

theorem isLineWord_rowWords (h : p.Writable) {row : ProblemRow} (member : row ∈ p.rows) :
    ∀ w ∈ p.rowWords row, IsLineWord w := by
  intro w listed
  rcases List.mem_cons.1 listed with rfl | listed
  · have name := (Lp.IsToken.of_isValidName (h.rowNames row member)).lineWord
    refine ⟨fun empty => name.1 (List.append_eq_nil_iff.1 empty).1, fun c inWord => ?_⟩
    rcases List.mem_append.1 inWord with inName | colon
    · exact name.2 c inName
    · rw [List.mem_singleton.1 colon]
      decide
  · rcases List.mem_append.1 listed with inTerms | last
    · exact (isToken_termsWords h (h.terms row member) w inTerms).lineWord
    · simp only [List.mem_cons, List.not_mem_nil, or_false] at last
      rcases last with rfl | rfl
      · exact Lp.isLineWord_symbol _
      · exact (Lp.IsToken.of_write (h.rhs row member).number).lineWord

theorem takeRow_words (h : p.Writable) {row : ProblemRow} (member : row ∈ p.rows)
    (s : ReadState) : s.takeRow (spaced (p.rowWords row)) = .ok (p.afterRow s row) := by
  have name := Lp.IsToken.of_isValidName (h.rowNames row member)
  have rhs := Lp.IsToken.of_write (h.rhs row member).number
  have noColon : ':' ∉ row.name.toList := fun colon =>
    absurd (name.2 _ colon) (by decide)
  have label : ReadState.splitLabel (spaced (p.rowWords row)) =
      (some row.name.toList, ' ' :: (spaced (p.termsWords row.terms) ++ ' ' ::
        (row.relation.symbol.toList ++ ' ' :: (Number.write row.rhs).toList))) := by
    unfold ReadState.splitLabel
    rw [spaced_rowWords, Text.splitOnce_append noColon]
    dsimp only
    rw [Lp.trim_of_isToken name]
  have cuts : Lp.splitRelations (' ' :: (spaced (p.termsWords row.terms) ++ ' ' ::
      (row.relation.symbol.toList ++ ' ' :: (Number.write row.rhs).toList))) =
      ⟨spaced (p.termsWords row.terms), [(row.relation, (Number.write row.rhs).toList)]⟩ := by
    have last := Lp.splitRelations_spaced (List.cons_ne_nil _ _) (Lp.isToken_all rhs)
    rw [Text.spaced_singleton] at last
    rw [Lp.splitRelations_blank_cons, Lp.splitRelations_relation (termsWords_ne_nil p _)
      (isToken_termsWords h (h.terms row member)), last]
  unfold ReadState.takeRow
  rw [label]
  dsimp only
  rw [cuts]
  dsimp only
  rw [readTerms_termsWords h (h.terms row member), Lp.readLimit_write (h.rhs row member)]
  show Except.ok _ = Except.ok _
  rw [Number.sub_zero, String.ofList_toList]
  rfl

theorem readLines_rowText (h : p.Writable) {row : ProblemRow} (member : row ∈ p.rows)
    {s : ReadState} (stage : s.stage = .constraints) (n : Nat) (rest : List Char) :
    Lp.readLines n s (lines ((p.rowText row).toList ++ rest)) =
      Lp.readLines (n + 1) (p.afterRow s row) (lines rest) := by
  have colon : ':' ∈ spaced (p.rowWords row) :=
    Text.mem_spaced_of_mem (List.mem_cons_self ..)
      (List.mem_append_right _ (List.mem_singleton_self _))
  have mark := Lp.not_keyword_of_mem (by decide) colon
  have taken : s.takeContent (spaced (p.rowWords row)) = .ok (p.afterRow s row) := by
    unfold ReadState.takeContent
    rw [stage]
    exact takeRow_words h member s
  rw [toList_rowText, List.append_assoc]
  exact Lp.readLines_content Lp.eq_blank_of_mem_indent (List.cons_ne_nil _ _)
    (isLineWord_rowWords h member) mark.1 mark.2 taken n rest

/-- The state after the block of rows, but for the section that is open. -/
def afterRows (p : Problem) (s : ReadState) : ReadState :=
  { s with
    rows := s.rows ++ p.rows.map p.writtenRow
    table := p.rows.foldl (fun t row => t.enterTerms (p.writtenTerms row.terms)) s.table }

theorem foldl_afterRow (p : Problem) (rows : List ProblemRow) (s : ReadState) :
    rows.foldl p.afterRow s = { s with
      rows := s.rows ++ rows.map p.writtenRow
      table := rows.foldl (fun t row => t.enterTerms (p.writtenTerms row.terms)) s.table } := by
  induction rows generalizing s with
  | nil => simp
  | cons row rows ih => simp [ih, afterRow]

theorem readLines_header (stage : Lp.Section) (ws : List (List Char)) (some : ws ≠ [])
    (words : ∀ w ∈ ws, IsLineWord w) (keyword : Lp.sectionKeyword (spaced ws) = .some (stage, none))
    (notEnd : Lp.isWord "end" (spaced ws) = false) (s : ReadState) (n : Nat) (rest : List Char) :
    Lp.readLines n s (lines ('\n' :: (spaced ws ++ '\n' :: rest))) =
      Lp.readLines (n + 2) { s with stage } (lines rest) := by
  rw [Lp.readLines_empty, Lp.readLines_keyword ws some words keyword notEnd]
  rfl

theorem readLines_rowsText (h : p.Writable) (s : ReadState) (n : Nat) (rest : List Char) :
    ∃ k stage, Lp.readLines n s (lines (p.rowsText.toList ++ rest)) =
      Lp.readLines k { p.afterRows s with stage } (lines rest) := by
  unfold rowsText
  split
  · rename_i empty
    refine ⟨n, s.stage, ?_⟩
    unfold afterRows
    rw [List.isEmpty_iff.1 empty, List.map_nil, List.append_nil]
    rfl
  · have words : ∀ w ∈ ["Subject".toList, "To".toList], IsLineWord w := by
      intro w listed
      simp only [List.mem_cons, List.not_mem_nil, or_false] at listed
      rcases listed with rfl | rfl
      · exact .of_all (by decide) (by decide)
      · exact .of_all (by decide) (by decide)
    have header := readLines_header .constraints _ (List.cons_ne_nil _ _) words (by decide)
      (by decide) s n (p.rows.flatMap (fun row => (p.rowText row).toList) ++ rest)
    have block := Lp.readLines_block p.afterRow .constraints (fun _ _ _ opened => opened)
      (fun row member s opened => readLines_rowText h member opened)
      (show ({ s with stage := .constraints } : ReadState).stage = _ from rfl) (n + 2) rest
    have text : ("\nSubject To\n" ++ String.join (p.rows.map p.rowText)).toList ++ rest =
        '\n' :: (spaced ["Subject".toList, "To".toList] ++ '\n' ::
          (p.rows.flatMap (fun row => (p.rowText row).toList) ++ rest)) := by
      rw [String.toList_append, String.toList_join, List.flatMap_map, List.append_assoc]
      rfl
    refine ⟨n + 2 + p.rows.length, .constraints, ?_⟩
    rw [text, header, block, foldl_afterRow]
    rfl

/-! ### Bounds -/

/-- The state after the block of bounds, but for the section that is open. -/
def afterBounds (p : Problem) (s : ReadState) : ReadState :=
  { s with
    table := p.columns.foldl (fun t c => t.bound c.name (Lp.boundLine c).apply) s.table }

theorem foldl_table {β : Type} (u : Lp.VariableTable → β → Lp.VariableTable) (bs : List β)
    (s : ReadState) :
    bs.foldl (fun s b => { s with table := u s.table b }) s =
      { s with table := bs.foldl u s.table } := by
  induction bs generalizing s with
  | nil => rfl
  | cons b bs ih => rw [List.foldl_cons, ih, List.foldl_cons]

theorem readLines_boundText {c : ProblemColumn} (isName : IsName c.name) (lower : IsLimit c.lower)
    (upper : IsLimit c.upper) {s : ReadState} (opened : s.stage = .bounds) (n : Nat)
    (rest : List Char) :
    Lp.readLines n s (lines (c.boundText.toList ++ rest)) =
      Lp.readLines (n + 1) { s with table := s.table.bound c.name (Lp.boundLine c).apply }
        (lines rest) := by
  have mark : ∃ m ∈ Lp.strangeMarks, m ∈ spaced (Lp.boundWords c) := by
    unfold Lp.boundWords
    split
    · have letter : 'f' ∈ "free".toList := by decide
      exact ⟨'f', by decide,
        Text.mem_spaced_of_mem (List.mem_cons_of_mem _ (List.mem_cons_self ..)) letter⟩
    · have letter : '<' ∈ "<=".toList := by decide
      exact ⟨'<', by decide,
        Text.mem_spaced_of_mem (List.mem_cons_of_mem _ (List.mem_cons_self ..)) letter⟩
  obtain ⟨m, strange, member⟩ := mark
  have plain := Lp.not_keyword_of_mem strange member
  have nonempty : Lp.boundWords c ≠ [] := by
    unfold Lp.boundWords
    split <;> exact List.cons_ne_nil _ _
  have taken : s.takeContent (spaced (Lp.boundWords c)) =
      .ok { s with table := s.table.bound c.name (Lp.boundLine c).apply } := by
    have name : String.ofList (Lp.boundLine c).name = c.name := String.ofList_toList
    unfold ReadState.takeContent
    rw [opened]
    dsimp only
    unfold ReadState.takeBound
    rw [Lp.read_boundWords isName lower upper]
    show Except.ok { s with table := s.table.bound (String.ofList (Lp.boundLine c).name) _ } = _
    rw [name, opened]
  rw [Lp.toList_boundText, List.append_assoc]
  exact Lp.readLines_content Lp.eq_blank_of_mem_indent nonempty
    (Lp.isLineWord_boundWords isName lower upper) plain.1 plain.2 taken n rest

theorem readLines_boundsText (h : p.Writable) (s : ReadState) (n : Nat) (rest : List Char) :
    ∃ k stage, Lp.readLines n s (lines (p.boundsText.toList ++ rest)) =
      Lp.readLines k { p.afterBounds s with stage } (lines rest) := by
  have words : ∀ w ∈ ["Bounds".toList], IsLineWord w := by
    intro w listed
    rw [List.mem_singleton.1 listed]
    exact .of_all (by decide) (by decide)
  have header := readLines_header .bounds _ (List.cons_ne_nil _ _) words (by decide)
    (by decide) s n (p.columns.flatMap (fun c => c.boundText.toList) ++ rest)
  have block := Lp.readLines_block
    (fun s c => { s with table := s.table.bound c.name (Lp.boundLine c).apply })
    .bounds (fun _ _ _ opened => opened)
    (fun c member s opened => readLines_boundText (h.names c member) (h.lower c member)
      (h.upper c member) opened)
    (show ({ s with stage := .bounds } : ReadState).stage = _ from rfl) (n + 2) rest
  have text : p.boundsText.toList ++ rest =
      '\n' :: (spaced ["Bounds".toList] ++ '\n' ::
        (p.columns.flatMap (fun c => c.boundText.toList) ++ rest)) := by
    unfold boundsText
    rw [String.toList_append, String.toList_join, List.flatMap_map, List.append_assoc]
    rfl
  refine ⟨n + 2 + p.columns.length, .bounds, ?_⟩
  rw [text, header, block, foldl_table (fun t c => t.bound c.name (Lp.boundLine c).apply)]
  rfl

/-! ### Lists of columns -/

def listed (p : Problem) (domain : Domain) : List ProblemColumn :=
  p.columns.filter (·.domain = domain)

/-- The state after the list of a domain, but for the section that is open. -/
def afterList (p : Problem) (domain : Domain) (f : Lp.Declared → Lp.Declared) (s : ReadState) :
    ReadState :=
  { s with table := (p.listed domain).foldl (fun t c => t.update c.name f) s.table }

theorem readLines_listed {name : String} (isName : IsName name) {f : Lp.Declared → Lp.Declared}
    {s : ReadState}
    (taken : s.takeContent (spaced [name.toList]) = .ok (s.takeList f (spaced [name.toList])))
    (n : Nat) (rest : List Char) :
    Lp.readLines n s (lines (("  " ++ name ++ "\n").toList ++ rest)) =
      Lp.readLines (n + 1) { s with table := s.table.update name f } (lines rest) := by
  have words : ∀ w ∈ [name.toList], IsLineWord w := fun w listed =>
    List.mem_singleton.1 listed ▸ isName.token.lineWord
  have free := isName.free
  unfold Lp.isReserved at free
  rw [Bool.or_eq_false_iff, Bool.or_eq_false_iff] at free
  have keyword : Lp.sectionKeyword (spaced [name.toList]) = none := by
    rw [Text.spaced_singleton]
    exact Option.isSome_eq_false_iff.1 free.1.2 |> Option.isNone_iff_eq_none.1
  have notEnd : Lp.isWord "end" (spaced [name.toList]) = false := by
    rw [Text.spaced_singleton]
    exact Bool.eq_false_iff.2 fun last => Bool.eq_false_iff.1 free.2
      (List.any_eq_true.2 ⟨"end", List.mem_cons_self .., last⟩)
  have effect : s.takeList f (spaced [name.toList]) =
      { s with table := s.table.update name f } := by
    unfold ReadState.takeList
    rw [Text.words_spaced fun w listed => (words w listed).word]
    show { s with table := s.table.update (String.ofList name.toList) f } = _
    rw [String.ofList_toList]
  rw [effect] at taken
  have line := Lp.readLines_content Lp.eq_blank_of_mem_indent (List.cons_ne_nil _ _) words keyword
    notEnd taken n rest
  rw [Text.spaced_singleton] at line
  rw [String.toList_append, String.toList_append, List.append_assoc]
  exact line

theorem readLines_domainText (h : p.Writable) (header : String) (domain : Domain)
    {f : Lp.Declared → Lp.Declared} {opens : Lp.Section}
    (word : IsLineWord header.toList)
    (keyword : Lp.sectionKeyword header.toList = some (opens, none))
    (notEnd : Lp.isWord "end" header.toList = false)
    (taken : ∀ s : ReadState, s.stage = opens → ∀ text,
      s.takeContent text = .ok (s.takeList f text))
    (s : ReadState) (n : Nat) (rest : List Char) :
    ∃ k stage, Lp.readLines n s (lines ((p.domainText header domain).toList ++ rest)) =
      Lp.readLines k { p.afterList domain f s with stage } (lines rest) := by
  have members : ∀ c ∈ p.listed domain, IsName c.name := fun c member =>
    h.names c (List.mem_of_mem_filter member)
  unfold domainText afterList
  dsimp only
  change ∃ k stage, Lp.readLines n s (lines ((if (p.listed domain).isEmpty then "" else
    "\n" ++ header ++ "\n" ++
      String.join ((p.listed domain).map fun c => "  " ++ c.name ++ "\n")).toList ++ rest)) = _
  generalize p.listed domain = columns at members
  split
  · rename_i empty
    refine ⟨n, s.stage, ?_⟩
    rw [List.isEmpty_iff.1 empty]
    rfl
  · have words : ∀ w ∈ [header.toList], IsLineWord w := fun w listed =>
      List.mem_singleton.1 listed ▸ word
    have opened := readLines_header opens _ (List.cons_ne_nil _ _) words
      (by rwa [Text.spaced_singleton]) (by rwa [Text.spaced_singleton]) s n
      (columns.flatMap (fun c => ("  " ++ c.name ++ "\n").toList) ++ rest)
    have block := Lp.readLines_block
      (fun s c => { s with table := s.table.update c.name f }) opens
      (fun _ _ _ opened => opened)
      (fun c member s opened => readLines_listed (members c member) (taken s opened _))
      (show ({ s with stage := opens } : ReadState).stage = _ from rfl) (n + 2) rest
    have text : ("\n" ++ header ++ "\n" ++
        String.join (columns.map fun c => "  " ++ c.name ++ "\n")).toList ++ rest =
        '\n' :: (spaced [header.toList] ++ '\n' ::
          (columns.flatMap (fun c => ("  " ++ c.name ++ "\n").toList) ++ rest)) := by
      rw [Text.spaced_singleton]
      simp only [String.toList_append, String.toList_join, List.flatMap_map, List.append_assoc]
      rfl
    refine ⟨n + 2 + columns.length, opens, ?_⟩
    rw [text, opened, block, foldl_table (fun t (c : ProblemColumn) => t.update c.name f)]

end Problem

end LinProg
