import Mathlib
import LinProg.Report.Cbc
import LinProg.Matrix.Basic
import LinProg.Matrix.View
import LinProg.Proofs.Matrix.View
import LinProg.Proofs.Sparse
import LinProg.Proofs.Text.Layout

/-!
# What a solution file of Cbc says

A file lists columns and rows of a body under the names of its view, in any order and spacing.  Reading
it gives the numbers listed, whatever the columns and rows are called: `read_report`.
-/

namespace LinProg

namespace ViewNames

def on (names : ViewNames) : Axis → List String
  | .column => names.columns
  | .row => names.rows

def at? (names : ViewNames) (axis : Axis) (i : Nat) : Option String := (names.on axis)[i]?

variable {names : ViewNames} {axis axis' : Axis} {i j : Nat} {name : String}

theorem mem_rows_iff (unique : names.Unique) (named : names.at? axis i = some name) :
    name ∈ names.rows ↔ axis = .row := by
  cases axis with
  | row => exact iff_of_true (List.mem_of_getElem? named) rfl
  | column =>
    refine iff_of_false (fun row => ?_) nofun
    exact (unique.rows name row).2 (.inl (List.mem_of_getElem? named))

theorem nodup_on (unique : names.Unique) (axis : Axis) : (names.on axis).Nodup := by
  cases axis with
  | column => exact unique.distinctColumns
  | row => exact unique.distinctRows

theorem at?_inj (unique : names.Unique) (left : names.at? axis i = some name)
    (right : names.at? axis' j = some name) : axis = axis' ∧ i = j := by
  have rows : axis = .row ↔ axis' = .row := by
    rw [← mem_rows_iff unique left, ← mem_rows_iff unique right]
  obtain rfl : axis = axis' := by
    cases axis with
    | row => exact (rows.1 rfl).symm
    | column =>
      cases axis' with
      | column => rfl
      | row => cases rows.2 rfl
  obtain ⟨within, here⟩ := List.getElem?_eq_some_iff.1 left
  obtain ⟨within', here'⟩ := List.getElem?_eq_some_iff.1 right
  exact ⟨rfl, (nodup_on unique axis).getElem_inj_iff.1 (here.trans here'.symm)⟩

end ViewNames

namespace CbcReport
open Text (Spread IsSpace IsWordText)

def mark : List Char := ['*', '*']

/-- A line lists a name with two numbers: a word for its own number, the name, the value and the dual
value, in any white space, possibly after a mark. -/
def Lists (name : String) (value dual : Float) (line : List Char) : Prop :=
  ∃ front number valueText dualText,
    (front = [mark] ∨ front = [] ∧ number ≠ mark) ∧
    Spread (front ++ [number, name.toList, valueText, dualText]) line ∧
    (IsWordText number ∧ IsWordText valueText ∧ IsWordText dualText) ∧
    Number.read valueText = .ok value ∧ Number.read dualText = .ok dual

/-- Lines that are blank or list a column or a row each, with a value and a dual value. -/
inductive Listing (names : ViewNames) (value dual : Axis → Nat → Float) :
    List (Axis × Nat) → List (List Char) → Prop where
  | nil : Listing names value dual [] []
  | blank {places : List (Axis × Nat)} {line : List Char} {lines : List (List Char)} :
      IsSpace line → Listing names value dual places lines →
      Listing names value dual places (line :: lines)
  | entry {axis : Axis} {i : Nat} {name : String} {places : List (Axis × Nat)} {line : List Char}
      {lines : List (List Char)} :
      names.at? axis i = some name → Lists name (value axis i) (dual axis i) line →
      Listing names value dual places lines →
      Listing names value dual ((axis, i) :: places) (line :: lines)

/-- A file has a first line that tells the outcome, and then lists some columns and rows. -/
def IsReport (names : ViewNames) (outcome : Outcome) (value dual : Axis → Nat → Float)
    (places : List (Axis × Nat)) (content : ByteArray) : Prop :=
  ∃ header lines, (∀ line ∈ header :: lines, '\n' ∉ line) ∧ readOutcome header = .ok outcome ∧
    Listing names value dual places lines ∧
    content = (String.ofList (List.intercalate ['\n'] (header :: lines))).toUTF8

variable {names : ViewNames} {outcome : Outcome} {value dual : Axis → Nat → Float}
  {places : List (Axis × Nat)} {line header : List Char} {lines : List (List Char)}
  {axis : Axis} {i : Nat} {name : String} {s : Solution} {content : ByteArray}

theorem Listing.inside (listing : Listing names value dual places lines) :
    ∀ place ∈ places, place.2 < (names.on place.1).length := by
  induction listing with
  | nil => exact nofun
  | blank _ _ ih => exact ih
  | entry named _ _ ih =>
    obtain ⟨inside, -⟩ := List.getElem?_eq_some_iff.1 named
    exact List.forall_mem_cons.2 ⟨inside, ih⟩

/-! ### What a listing gives -/

/-- The entries that some places on an axis give. -/
def entriesOf (names : ViewNames) (axis : Axis) (number : Axis → Nat → Float)
    (places : List (Axis × Nat)) : List (String × Float) :=
  places.filterMap fun place =>
    if place.1 = axis then (names.at? axis place.2).map fun name => (name, number axis place.2)
    else none

/-- A solution with what some places list as well. -/
def extend (names : ViewNames) (value dual : Axis → Nat → Float) (s : Solution)
    (places : List (Axis × Nat)) : Solution where
  outcome := s.outcome
  results := s.results.setAll (entriesOf names .column value places)
  reducedCosts := s.reducedCosts.setAll (entriesOf names .column dual places)
  duals := s.duals.setAll (entriesOf names .row dual places)

/-- The solution that a file tells: what it lists, over zero for every column. -/
def told (names : ViewNames) (outcome : Outcome) (value dual : Axis → Nat → Float)
    (places : List (Axis × Nat)) : Solution :=
  extend names value dual (.ofResults outcome (zeros names.columns)) places

theorem mem_entriesOf {number : Axis → Nat → Float} {entry : String × Float} :
    entry ∈ entriesOf names axis number places ↔
      ∃ i, (axis, i) ∈ places ∧ names.at? axis i = some entry.1 ∧ entry.2 = number axis i := by
  unfold entriesOf
  rw [List.mem_filterMap]
  constructor
  · rintro ⟨⟨axis', i⟩, member, given⟩
    split at given
    · rename_i same
      obtain rfl : axis' = axis := same
      obtain ⟨name, named, rfl⟩ := Option.map_eq_some_iff.1 given
      exact ⟨i, member, named, rfl⟩
    · cases given
  · rintro ⟨i, member, named, number⟩
    refine ⟨(axis, i), member, ?_⟩
    rw [if_pos rfl, named, Option.map_some, ← number]

theorem entriesOf_cons_same (number : Axis → Nat → Float) (named : names.at? axis i = some name)
    (places : List (Axis × Nat)) :
    entriesOf names axis number ((axis, i) :: places) =
      (name, number axis i) :: entriesOf names axis number places := by
  unfold entriesOf
  apply List.filterMap_cons_some
  rw [if_pos rfl, named, Option.map_some]

theorem entriesOf_cons_other {other : Axis} (number : Axis → Nat → Float) (different : other ≠ axis)
    (places : List (Axis × Nat)) :
    entriesOf names axis number ((other, i) :: places) = entriesOf names axis number places := by
  unfold entriesOf
  exact List.filterMap_cons_none (if_neg different)

theorem isEmpty_entriesOf (inside : ∀ place ∈ places, place.2 < (names.on place.1).length)
    (number : Axis → Nat → Float) :
    (entriesOf names axis number places).isEmpty = !places.any (·.1 = axis) := by
  induction places with
  | nil => rfl
  | cons place places ih =>
    obtain ⟨first, others⟩ := List.forall_mem_cons.1 inside
    by_cases same : place.1 = axis
    · subst same
      rw [entriesOf_cons_same number (List.getElem?_eq_getElem first), List.any_cons,
        decide_eq_true rfl, Bool.true_or]
      rfl
    · rw [entriesOf_cons_other number same, ih others, List.any_cons, decide_eq_false same,
        Bool.false_or]

/-- A listed name has the number that is listed with it, whatever else is listed. -/
theorem get?_setAll_entriesOf (unique : names.Unique) (number : Axis → Nat → Float)
    (named : names.at? axis i = some name) (v : Sparse String) :
    (v.setAll (entriesOf names axis number places)).get? name =
      if (axis, i) ∈ places then some (number axis i) else v.get? name := by
  split
  · rename_i listed
    refine Sparse.get?_setAll_of_mem (mem_entriesOf.2 ⟨i, listed, named, rfl⟩) ?_ v
    -- another line with this name is about the same position, so it has the same number
    intro entry member same
    obtain ⟨j, -, named', value⟩ := mem_entriesOf.1 member
    obtain ⟨-, rfl⟩ := ViewNames.at?_inj unique named' (named.trans (congrArg some same.symm))
    exact value
  · rename_i absent
    refine Sparse.get?_setAll_of_not_mem ?_ v
    intro entry member same
    obtain ⟨j, listed, named', -⟩ := mem_entriesOf.1 member
    obtain ⟨-, rfl⟩ := ViewNames.at?_inj unique named' (named.trans (congrArg some same.symm))
    exact absent listed

/-- The number of a column or row if it is listed, and else zero. -/
def listed (number : Axis → Nat → Float) (places : List (Axis × Nat)) (axis : Axis) (i : Nat) :
    Float :=
  if (axis, i) ∈ places then number axis i else 0

theorem getD_setAll_entriesOf (unique : names.Unique) (number : Axis → Nat → Float)
    (named : names.at? axis i = some name) {v : Sparse String} (zero : v.getD name = 0) :
    (v.setAll (entriesOf names axis number places)).getD name = listed number places axis i := by
  unfold Sparse.getD listed
  rw [get?_setAll_entriesOf unique number named]
  split
  · rfl
  · exact zero

theorem getD_zeros (columns : List String) (name : String) : (zeros columns).getD name = 0 := by
  show ((Sparse.empty.setAll (columns.map fun name => (name, 0))).get? name).getD 0 = 0
  by_cases column : name ∈ columns
  · rw [Sparse.get?_setAll_of_mem (List.mem_map.2 ⟨name, column, rfl⟩)]
    · rfl
    · intro entry member _
      obtain ⟨_, -, rfl⟩ := List.mem_map.1 member
      rfl
  · rw [Sparse.get?_setAll_of_not_mem]
    · rfl
    · intro entry member same
      obtain ⟨other, listed, rfl⟩ := List.mem_map.1 member
      exact column (same ▸ listed)

/-- Values and reduced costs are those of columns and duals are those of rows, none of both. -/
structure Apart (names : ViewNames) (s : Solution) : Prop where
  results : ∀ name x, s.results.get? name = some x → name ∈ names.columns ∧ name ∉ names.rows
  reducedCosts : ∀ name x,
    s.reducedCosts.get? name = some x → name ∈ names.columns ∧ name ∉ names.rows
  duals : ∀ name x, s.duals.get? name = some x → name ∈ names.rows ∧ name ∉ names.columns

theorem apart_told (unique : names.Unique) : Apart names (told names outcome value dual places) := by
  have column {number : Axis → Nat → Float} {entry : String × Float}
      (member : entry ∈ entriesOf names .column number places) :
      entry.1 ∈ names.columns ∧ entry.1 ∉ names.rows := by
    obtain ⟨i, -, named, -⟩ := mem_entriesOf.1 member
    refine ⟨List.mem_of_getElem? named, fun row => ?_⟩
    cases (ViewNames.mem_rows_iff unique named).1 row
  refine ⟨fun name x found => ?_, fun name x found => ?_, fun name x found => ?_⟩
  · rcases Sparse.mem_of_get?_setAll found with zero | ⟨entry, member, rfl⟩
    · rcases Sparse.mem_of_get?_setAll zero with none | ⟨entry, member, rfl⟩
      · cases none
      · obtain ⟨name, here, rfl⟩ := List.mem_map.1 member
        exact ⟨here, fun row => (unique.rows name row).2 (.inl here)⟩
    · exact column member
  · rcases Sparse.mem_of_get?_setAll found with none | ⟨entry, member, rfl⟩
    · cases none
    · exact column member
  · rcases Sparse.mem_of_get?_setAll found with none | ⟨entry, member, rfl⟩
    · cases none
    · obtain ⟨i, -, named, -⟩ := mem_entriesOf.1 member
      have row := (ViewNames.mem_rows_iff unique named).2 rfl
      exact ⟨row, fun column => (unique.rows _ row).2 (.inl column)⟩

/-! ### Lines -/

theorem isWordText_mark : IsWordText mark := by
  refine ⟨List.cons_ne_nil _ _, fun c member => ?_⟩
  obtain rfl : c = '*' := by simpa [mark] using member
  rfl

theorem isWordText_name (unique : names.Unique) (named : names.at? axis i = some name) :
    IsWordText name.toList := by
  cases axis with
  | column => exact (unique.columns name (List.mem_of_getElem? named)).1.isName.token.word
  | row => exact (unique.rows name (List.mem_of_getElem? named)).1.isName.token.word

theorem readLine_blank (rowNames : List String) (s : Solution) (blank : Text.words line = []) :
    readLine rowNames s line = .ok s := by
  unfold readLine
  rw [if_pos blank]

theorem readField_ok {field : List Char} {x : Float} (number : Number.read field = .ok x) :
    readField field = .ok x := by
  unfold readField
  rw [number]

theorem fields_of_words {front ws : List (List Char)}
    (marked : front = [mark] ∨ front = [] ∧ ws.head? ≠ some mark)
    (words : Text.words line = front ++ ws) : fields line = ws := by
  unfold fields
  rw [words]
  rcases marked with rfl | ⟨rfl, unmarked⟩
  · rfl
  · rw [List.nil_append]
    split
    · exact absurd rfl unmarked
    · rfl

theorem lists_iff {x y : Float} (word : IsWordText name.toList) :
    Lists name x y line ↔ ∃ front number valueText dualText,
      (front = [mark] ∨ front = [] ∧ number ≠ mark) ∧
      Text.words line = front ++ [number, name.toList, valueText, dualText] ∧
      Number.read valueText = .ok x ∧ Number.read dualText = .ok y := by
  constructor
  · rintro ⟨front, number, valueText, dualText, marked, spread, ⟨word', first, second⟩, numbers⟩
    refine ⟨front, number, valueText, dualText, marked, ?_, numbers⟩
    refine Text.words_of_spread spread (List.forall_mem_append.2 ⟨?_, ?_⟩)
    · rcases marked with rfl | ⟨rfl, -⟩
      · exact List.forall_mem_singleton.2 isWordText_mark
      · exact nofun
    · simp only [List.forall_mem_cons]
      exact ⟨word', word, first, second, nofun⟩
  · rintro ⟨front, number, valueText, dualText, marked, words, numbers⟩
    obtain ⟨spread, all⟩ := Text.words_eq_iff.1 words
    refine ⟨front, number, valueText, dualText, marked, spread, ⟨?_, ?_, ?_⟩, numbers⟩
    · exact all number (by simp)
    · exact all valueText (by simp)
    · exact all dualText (by simp)

theorem Listing.of_words (unique : names.Unique) (named : names.at? axis i = some name)
    (words : ∃ front number valueText dualText,
      (front = [mark] ∨ front = [] ∧ number ≠ mark) ∧
      Text.words line = front ++ [number, name.toList, valueText, dualText] ∧
      Number.read valueText = .ok (value axis i) ∧ Number.read dualText = .ok (dual axis i))
    (rest : Listing names value dual places lines) :
    Listing names value dual ((axis, i) :: places) (line :: lines) :=
  .entry named ((lists_iff (isWordText_name unique named)).2 words) rest

/-- A line that lists a name gives the numbers to a row if it is the name of one, and else to a
column. -/
theorem readLine_lists (unique : names.Unique) (named : names.at? axis i = some name)
    (lists : Lists name (value axis i) (dual axis i) line) {shown : List Char}
    (same : Text.words shown = Text.words line) (s : Solution) :
    readLine names.rows s shown = .ok (extend names value dual s [(axis, i)]) := by
  have word := isWordText_name unique named
  obtain ⟨front, number, valueText, dualText, marked, words, isValue, isDual⟩ :=
    (lists_iff word).1 lists
  rw [← same] at words
  have split : fields shown = [number, name.toList, valueText, dualText] := by
    refine fields_of_words (marked.imp_right ?_) words
    rintro ⟨noFront, unmarked⟩
    exact ⟨noFront, fun marks => unmarked (Option.some.inj marks)⟩
  have some : Text.words shown ≠ [] := by simp [words]
  unfold readLine
  rw [if_neg some, split]
  dsimp only
  rw [readField_ok isValue, readField_ok isDual, String.ofList_toList]
  simp only [extend]
  cases axis with
  | column =>
    have column : name ∉ names.rows := fun row => by
      cases (ViewNames.mem_rows_iff unique named).1 row
    rw [entriesOf_cons_same value named, entriesOf_cons_same dual named,
      entriesOf_cons_other dual (by decide)]
    exact if_neg column
  | row =>
    have row := (ViewNames.mem_rows_iff unique named).2 rfl
    rw [entriesOf_cons_other value (by decide), entriesOf_cons_other dual (by decide),
      entriesOf_cons_same dual named]
    exact if_pos row

/-! ### Files -/

theorem extend_cons (place : Axis × Nat) (places : List (Axis × Nat)) :
    extend names value dual s (place :: places) =
      extend names value dual (extend names value dual s [place]) places := by
  have cut (axis : Axis) (number : Axis → Nat → Float) :
      entriesOf names axis number (place :: places) =
        entriesOf names axis number [place] ++ entriesOf names axis number places := by
    show ([place] ++ places).filterMap _ = _
    exact List.filterMap_append
  unfold extend
  rw [cut, cut, cut, Sparse.setAll_append, Sparse.setAll_append, Sparse.setAll_append]

/-- A first line counts by its words, which closing it keeps. -/
theorem readLines_cons {rowNames : List String} {next : Solution}
    (step : ∀ shown, Text.words shown = Text.words line → readLine rowNames s shown = .ok next) :
    readLines rowNames s ((Text.closeLines '\r' (line :: lines)).map Text.bytesOf) =
      readLines rowNames next ((Text.closeLines '\r' lines).map Text.bytesOf) := by
  rcases Text.words_closeLines line lines with ⟨empty, left⟩ | ⟨shown, same, left⟩
  · -- an empty last line is left out, and would have changed nothing
    subst empty
    have unchanged := step [] rfl
    rw [readLine_blank rowNames s rfl] at unchanged
    rw [left, Except.ok.inj unchanged]
  · rw [left, List.map_cons, readLines, Text.decodeLine_bytesOf]
    simp only [step shown same]

theorem readLines_listing (unique : names.Unique) (listing : Listing names value dual places lines)
    (s : Solution) :
    readLines names.rows s ((Text.closeLines '\r' lines).map Text.bytesOf) =
      .ok (extend names value dual s places) := by
  induction listing generalizing s with
  | nil => rfl
  | blank space _ ih =>
    rw [readLines_cons fun shown same => readLine_blank _ s ?_]
    · exact ih s
    · rw [same]
      exact Text.words_of_space space
  | entry named lists _ ih =>
    rw [readLines_cons fun shown same => readLine_lists unique named lists same s, ih, ← extend_cons]

theorem readOutcome_congr {shown : List Char} (same : Text.words shown = Text.words header) :
    readOutcome shown = readOutcome header := by
  unfold readOutcome
  rw [same]

/-- Whatever the lines are in, a file tells its outcome and what it lists. -/
theorem read_report {problem : Problem} (unique : names.Unique)
    (columns : problem.columns.map (·.name) = names.columns)
    (rows : problem.rows.map (·.name) = names.rows)
    (report : IsReport names outcome value dual places content) :
    read (some problem) content = .ok (told names outcome value dual places) := by
  obtain ⟨header, lines, noFeed, told, listing, rfl⟩ := report
  rcases Text.words_closeLines header lines with ⟨rfl, -⟩ | ⟨shown, same, closed⟩
  · cases told
  · have cut := Text.byteLines_join (List.cons_ne_nil header lines) noFeed
    rw [closed, List.map_cons] at cut
    unfold read
    simp only [cut, columns, rows, Text.decodeLine_bytesOf, readOutcome_congr same, told]
    exact readLines_listing unique listing _

end CbcReport

end LinProg
