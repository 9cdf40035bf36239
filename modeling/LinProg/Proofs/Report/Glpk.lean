import Mathlib
import LinProg.Report.Glpk
import LinProg.Proofs.Lp.Token
import LinProg.Proofs.Operation
import LinProg.Proofs.Sparse
import LinProg.Proofs.Text.Layout

/-!
# What a report of glpsol says

A report has one entry for each row and each column, on one line, or on two if the name is longer than
its place.  Column entries are read in either form.  Row entries are skipped by number, one line each:
so the columns are read if no row name is too long, and else none of their lines is
(`columns_read_back`).
-/

namespace LinProg.GlpkReport
open Operation (reading_bind_ok_iff reading_map_ok_iff)
open Text (IsSpace IsWordText Spread)

/-! ### Entries -/

/-- An entry of a row or a column, as words, with its activity as a number. -/
structure Entry where
  number : List Char
  name : String
  status : List Char
  activity : List Char
  further : List (List Char)
  value : Float

namespace Entry

def front (e : Entry) : List (List Char) := [e.number, e.name.toList]

def back (e : Entry) : List (List Char) := e.status :: e.activity :: e.further

def isLong (e : Entry) : Bool := 12 < e.name.length

/-- An entry of words, none of which has white space, with a numeric activity. -/
structure IsSound (e : Entry) : Prop where
  words : ∀ w ∈ e.front ++ e.back, IsWordText w
  activity : Number.read e.activity = .ok e.value

end Entry

/-- Lines that print entries in order.  An entry with a long name has its rest on a second line. -/
inductive Prints : List Entry → List (List Char) → Prop where
  | nil : Prints [] []
  | short {e : Entry} {es : List Entry} {line : List Char} {lines : List (List Char)} :
      e.isLong = false → Spread (e.front ++ e.back) line → Prints es lines →
      Prints (e :: es) (line :: lines)
  | long {e : Entry} {es : List Entry} {line rest : List Char} {lines : List (List Char)} :
      e.isLong = true → Spread e.front line → Spread e.back rest → Prints es lines →
      Prints (e :: es) (line :: rest :: lines)

section

def Entry.lines (e : Entry) : List (List Char) :=
  if e.isLong then [Text.spaced e.front, Text.spaced e.back] else [Text.spaced (e.front ++ e.back)]

variable {e : Entry} {es : List Entry} {line : List Char} {lines : List (List Char)}
  {results out : Sparse String} {n : Nat}

theorem Prints.length (prints : Prints es lines) :
    lines.length = es.length + es.countP (·.isLong) := by
  induction prints with
  | nil => rfl
  | short fits _ _ ih => simp [fits, ih]; omega
  | long exceeds _ _ _ ih => simp [exceeds, ih]; omega

theorem prints_lines (words : ∀ e ∈ es, ∀ w ∈ e.front ++ e.back, IsWordText w) :
    Prints es (es.flatMap Entry.lines) := by
  induction es with
  | nil => exact .nil
  | cons e es ih =>
    obtain ⟨first, others⟩ := List.forall_mem_cons.1 words
    rw [List.flatMap_cons, Entry.lines]
    cases long : e.isLong with
    | false => exact .short long (Text.spread_spaced first) (ih others)
    | true =>
      obtain ⟨front, back⟩ := List.forall_mem_append.1 first
      exact .long long (Text.spread_spaced front) (Text.spread_spaced back) (ih others)

/-- A line as the reader gets it. -/
def shown (line : List Char) : Option (List Char) := some (Text.dropReturn '\r' line)

theorem readEntries_single (single : (Text.words line).length ≠ 2) (tail : List Line) :
    readEntries results (n + 1) (some line :: tail) = (do
      let (name, x) ← readEntry line
      readEntries (results.set name x) n tail) := by
  rw [readEntries.eq_def]
  simp only [if_neg single]

theorem readEntries_double {rest : List Char} (two : (Text.words line).length = 2)
    (tail : List Line) :
    readEntries results (n + 1) (some line :: some rest :: tail) = (do
      let (name, x) ← readEntry (line ++ ' ' :: rest)
      readEntries (results.set name x) n tail) := by
  rw [readEntries.eq_def]
  simp only [if_pos two]

theorem readEntry_ok (sound : e.IsSound) (words : Text.words line = e.front ++ e.back) :
    readEntry line = .ok (e.name, e.value) := by
  unfold readEntry
  rw [words]
  simp only [Entry.front, Entry.back, List.cons_append, List.nil_append, sound.activity,
    String.ofList_toList]

/-- Entries are read back in order, whether their names are long or short. -/
theorem readEntries_prints (prints : Prints es lines) (sound : ∀ e ∈ es, e.IsSound)
    (results : Sparse String) (tail : List Line) :
    readEntries results es.length (lines.map shown ++ tail) =
      .ok (results.setAll (es.map fun e => (e.name, e.value))) := by
  induction prints generalizing results with
  | nil => rfl
  | @short e es line lines _ spread _ ih =>
    obtain ⟨first, others⟩ := List.forall_mem_cons.1 sound
    have words : Text.words (Text.dropReturn '\r' line) = e.front ++ e.back :=
      (Text.words_dropReturn line).trans (Text.words_of_spread spread first.words)
    have several : (Text.words (Text.dropReturn '\r' line)).length ≠ 2 := by
      simp [words, Entry.front, Entry.back]
    rw [List.length_cons, List.map_cons, List.cons_append, shown, readEntries_single several,
      readEntry_ok first words]
    exact ih others _
  | @long e es line rest lines _ spread spread' _ ih =>
    obtain ⟨first, others⟩ := List.forall_mem_cons.1 sound
    obtain ⟨inFront, inBack⟩ := List.forall_mem_append.1 first.words
    have front : Text.words (Text.dropReturn '\r' line) = e.front :=
      (Text.words_dropReturn line).trans (Text.words_of_spread spread inFront)
    have back : Text.words (Text.dropReturn '\r' rest) = e.back :=
      (Text.words_dropReturn rest).trans (Text.words_of_spread spread' inBack)
    have words : Text.words (Text.dropReturn '\r' line ++ ' ' :: Text.dropReturn '\r' rest) =
        e.front ++ e.back := by
      rw [Text.words_append_cons_blank, front, back]
    have two : (Text.words (Text.dropReturn '\r' line)).length = 2 := by
      simp [front, Entry.front]
    rw [List.length_cons, List.map_cons, List.map_cons, List.cons_append, List.cons_append, shown,
      shown, readEntries_double two, readEntry_ok first words]
    exact ih others _

/-! ### Lines that are no entries -/

theorem readEntry_name {name : String} {x : Float} (read : readEntry line = .ok (name, x)) :
    name.toList ∈ Text.words line := by
  unfold readEntry at read
  split at read
  · rename_i words
    split at read
    · cases read
      simp [words]
    · cases read
  · cases read

theorem readEntry_short (few : (Text.words line).length < 4) :
    readEntry line = .error .glpkEntryShort := by
  unfold readEntry
  split
  · rename_i words
    simp [words] at few
    omega
  · rfl

/-- Reading does not get beyond a line without words: what it gives has names from lines before. -/
theorem readEntries_before (blank : Text.words line = []) {before : List (List Char)}
    {tail : List Line} (read : readEntries results n (before.map some ++ some line :: tail) = .ok out)
    {name : String} {x : Float} (found : out.get? name = some x) :
    results.get? name = some x ∨ ∃ l ∈ before, name.toList ∈ Text.words l := by
  induction n generalizing results before with
  | zero =>
    cases read
    exact .inl found
  | succ n ih =>
    -- one entry more is read from some of the lines before, or reading has failed
    have step {name' : String} {y : Float} {rest : List (List Char)}
        (listed : ∃ l ∈ before, name'.toList ∈ Text.words l) (less : rest ⊆ before)
        (next : readEntries (results.set name' y) n (rest.map some ++ some line :: tail) = .ok out) :
        results.get? name = some x ∨ ∃ l ∈ before, name.toList ∈ Text.words l := by
      rcases ih next with earlier | ⟨l, inRest, word⟩
      · rw [Sparse.get?_set] at earlier
        split at earlier
        · rename_i same
          exact .inr (same ▸ listed)
        · exact .inl earlier
      · exact .inr ⟨l, less inRest, word⟩
    cases before with
    | nil =>
      rw [List.map_nil, List.nil_append, readEntries_single (by simp [blank]),
        readEntry_short (by simp [blank])] at read
      cases read
    | cons first more =>
      rw [List.map_cons, List.cons_append] at read
      by_cases two : (Text.words first).length = 2
      · cases more with
        | nil =>
          rw [List.map_nil, List.nil_append, readEntries_double two, readEntry_short] at read
          · cases read
          · rw [Text.words_append_cons_blank, blank, List.append_nil, two]
            decide
        | cons second rest =>
          rw [List.map_cons, List.cons_append, readEntries_double two] at read
          obtain ⟨given, entry, next⟩ := reading_bind_ok_iff.1 read
          have word := readEntry_name entry
          rw [Text.words_append_cons_blank, List.mem_append] at word
          refine step ?_ (fun l h => List.mem_cons_of_mem _ (List.mem_cons_of_mem _ h)) next
          rcases word with here | there
          · exact ⟨first, List.mem_cons_self, here⟩
          · exact ⟨second, List.mem_cons_of_mem _ List.mem_cons_self, there⟩
      · rw [readEntries_single two] at read
        obtain ⟨given, entry, next⟩ := reading_bind_ok_iff.1 read
        exact step ⟨first, List.mem_cons_self, readEntry_name entry⟩
          (fun l h => List.mem_cons_of_mem _ h) next

end

/-! ### Lines before the entries -/

theorem readCount_toDigits {n : Nat} (fits : n < UInt64.size) :
    readCount (Nat.toDigits 10 n) = some n := by
  have digits := Number.isDigit_toDigits (n := n)
  unfold readCount
  split
  · rename_i more plus
    have digit := digits '+' (plus ▸ List.mem_cons_self)
    exact absurd digit (by decide)
  · have value := Number.digitsValue_toDigits n
    simp only [value]
    rw [if_pos ⟨Nat.toDigits_ne_nil, List.all_eq_true.2 digits, fits⟩]

theorem isWordText_toDigits (n : Nat) : IsWordText (Nat.toDigits 10 n) := Lp.IsToken.word
  ⟨Nat.toDigits_ne_nil, fun c member => Lp.isPlain_of_isDigit (Number.isDigit_toDigits c member)⟩

theorem isWordText_rows : IsWordText "Rows:".toList :=
  (Lp.IsLineWord.of_all (by decide) (by decide)).word

theorem isWordText_columns : IsWordText "Columns:".toList :=
  (Lp.IsLineWord.of_all (by decide) (by decide)).word

theorem words_size {label : List Char} (word : IsWordText label) (n : Nat) :
    ∀ w ∈ [label, Nat.toDigits 10 n], IsWordText w := by
  simp [word, isWordText_toDigits]

theorem readSize_spread {label line : List Char} {n : Nat} (word : IsWordText label)
    (fits : n < UInt64.size) (spread : Spread [label, Nat.toDigits 10 n] line) :
    readSize (some (shown line)) = .ok n := by
  have words : Text.words (Text.dropReturn '\r' line) = [label, Nat.toDigits 10 n] :=
    (Text.words_dropReturn line).trans (Text.words_of_spread spread (words_size word n))
  simp only [readSize, shown, words, List.getElem?_cons_succ, List.getElem?_cons_zero,
    Option.bind_some, readCount_toDigits fits]

/-- A status is not empty, and has no white space at its ends. -/
theorem ends_of_outcomeOf? {status : String} {outcome : Outcome}
    (known : outcomeOf? status = some outcome) :
    ∃ first last, status.toList.head? = some first ∧ status.toList.getLast? = some last ∧
      Text.isBlank first = false ∧ Text.isBlank last = false := by
  have listed : status ∈ ["INTEGER OPTIMAL", "OPTIMAL", "INTEGER NON-OPTIMAL", "FEASIBLE",
      "INFEASIBLE (FINAL)", "INTEGER EMPTY", "UNDEFINED", "INTEGER UNDEFINED", "UNBOUNDED"] := by
    unfold outcomeOf? at known
    grind
  simp only [List.mem_cons, List.not_mem_nil, or_false] at listed
  rcases listed with rfl | rfl | rfl | rfl | rfl | rfl | rfl | rfl | rfl <;>
    exact ⟨_, _, rfl, rfl, by decide, by decide⟩

theorem dropBytes_append {front : List Char} (ascii : ∀ c ∈ front, c.toNat ≤ 127)
    (rest : List Char) : dropBytes front.length (front ++ rest) = some rest := by
  induction front with
  | nil => rw [List.length_nil, List.nil_append, dropBytes]
  | cons c front ih =>
    obtain ⟨one, others⟩ := List.forall_mem_cons.1 ascii
    have size : c.utf8Size = 1 := Char.utf8Size_eq_one_iff.2 (UInt32.le_iff_toNat_le.2 one)
    rw [List.length_cons, List.cons_append, dropBytes, size, if_pos (by omega)]
    exact ih others

theorem readOutcome_status {status : String} {outcome : Outcome} {space : List Char}
    (known : outcomeOf? status = some outcome) (blank : IsSpace space) :
    readOutcome (some (shown ("Status:     ".toList ++ status.toList ++ space))) = .ok outcome := by
  obtain ⟨first, last, head, final, plain, plain'⟩ := ends_of_outcomeOf? known
  have final' : ("Status:     ".toList ++ status.toList).getLast? = some last := by
    rw [List.getLast?_append, final, Option.some_or]
  obtain ⟨space', blank', closed⟩ := Text.dropReturn_append_space blank final' plain'
  have trimmed : Text.trim (status.toList ++ space') = status.toList :=
    Text.trim_around (List.forall_mem_nil _) blank' head final plain plain'
  have ascii : ∀ c ∈ "Status:     ".toList, c.toNat ≤ 127 := by simp
  have rest : dropBytes 12 ("Status:     ".toList ++ status.toList ++ space') =
      some (status.toList ++ space') := by
    rw [List.append_assoc]
    exact dropBytes_append ascii (status.toList ++ space')
  simp only [readOutcome, shown, closed, rest, Option.bind_some, trimmed, String.ofList_toList, known]

/-! ### Reports -/

def heading : List Char :=
  "   No. Column name  St   Activity     Lower bound   Upper bound    Marginal".toList

def dashes : List Char :=
  "------ ------------ -- ------------- ------------- ------------- -------------".toList

/-- The lines between the row entries and the column entries. -/
def between : List (List Char) := [[], heading, dashes]

/-- The lines of a report up to the column entries, the entries, and the bytes after them. -/
structure Report where
  title : List Char
  rowCount : List Char
  columnCount : List Char
  nonZeros : List Char
  status : List Char
  objective : List Char
  blank : List Char
  rowHeading : List Char
  rowDashes : List Char
  rows : List Entry
  rowLines : List (List Char)
  columns : List Entry
  columnLines : List (List Char)
  after : ByteArray

namespace Report

variable (r : Report)

def lines : List (List Char) :=
  [r.title, r.rowCount, r.columnCount, r.nonZeros, r.status, r.objective, r.blank, r.rowHeading,
    r.rowDashes] ++ (r.rowLines ++ between ++ r.columnLines)

def content : ByteArray :=
  (String.ofList (Text.terminated r.lines)).toUTF8 ++ r.after

/-- The report gives its numbers of rows and columns and a known status, and prints its entries. -/
structure IsSound (outcome : Outcome) : Prop where
  noFeed : ∀ line ∈ r.lines, '\n' ∉ line
  rowCount : Spread ["Rows:".toList, Nat.toDigits 10 r.rows.length] r.rowCount
  columnCount : Spread ["Columns:".toList, Nat.toDigits 10 r.columns.length] r.columnCount
  status : ∃ known space, outcomeOf? known = some outcome ∧ IsSpace space ∧
    r.status = "Status:     ".toList ++ known.toList ++ space
  rows : Prints r.rows r.rowLines
  columns : Prints r.columns r.columnLines
  entries : ∀ e ∈ r.columns, e.IsSound
  fits : r.rows.length + 7 < UInt64.size ∧ r.columns.length < UInt64.size

/-- The number of rows whose names are too long. -/
def wrapped : Nat := r.rows.countP (·.isLong)

/-- The lines before the column entries that the reader takes for them. -/
def left : List (List Char) := (r.rowLines ++ between).drop (r.rows.length + 3)

/-- The activities of the columns of a name. -/
def values (name : String) : List Float := valuesAt name (r.columns.map fun e => (e.name, e.value))

section

variable {r} {outcome : Outcome}

theorem length_left (prints : Prints r.rows r.rowLines) : r.left.length = r.wrapped := by
  simp [left, between, prints.length, wrapped]

/-- Up to the columns a report is read by counting its lines. -/
theorem read_content (sound : r.IsSound outcome) :
    read r.content = (readEntries .empty r.columns.length
      (r.left.map shown ++ (r.columnLines.map shown ++
        (Text.byteLines r.after).map Text.decodeLine))).map (.ofResults outcome) := by
  obtain ⟨known, space, status, blank, shape⟩ := sound.status
  have cut : (Text.byteLines r.content).map Text.decodeLine =
      r.lines.map shown ++ (Text.byteLines r.after).map Text.decodeLine := by
    rw [content, Text.byteLines_terminated sound.noFeed, List.map_append, List.map_map]
    congr 1
    exact List.map_congr_left fun line _ => Text.decodeLine_bytesOf _
  have skipped : (r.lines.map shown ++ (Text.byteLines r.after).map Text.decodeLine).drop
      (5 + (r.rows.length + 7)) = r.left.map shown ++ (r.columnLines.map shown ++
        (Text.byteLines r.after).map Text.decodeLine) := by
    have whole : 5 + (r.rows.length + 7) = 9 + (r.rows.length + 3) := by omega
    have within : r.rows.length + 3 ≤ ((r.rowLines ++ between).map shown).length := by
      simp [between, sound.rows.length]
    rw [whole, ← List.drop_drop, left, List.map_drop, ← List.drop_append_of_le_length within, lines]
    simp only [List.map_append, List.append_assoc, List.map_cons, List.cons_append,
      List.nil_append, List.drop_succ_cons, List.drop_zero]
  have rows : readSize (some (shown r.rowCount)) = .ok r.rows.length :=
    readSize_spread isWordText_rows (by have := sound.fits; omega) sound.rowCount
  have columns : readSize (some (shown r.columnCount)) = .ok r.columns.length :=
    readSize_spread isWordText_columns sound.fits.2 sound.columnCount
  have outcome' : readOutcome (some (shown r.status)) = .ok outcome :=
    shape ▸ readOutcome_status status blank
  unfold read
  rw [cut]
  have second : (r.lines.map shown ++ (Text.byteLines r.after).map Text.decodeLine)[1]? =
      some (shown r.rowCount) := rfl
  have third : (r.lines.map shown ++ (Text.byteLines r.after).map Text.decodeLine)[2]? =
      some (shown r.columnCount) := rfl
  have fifth : (r.lines.map shown ++ (Text.byteLines r.after).map Text.decodeLine)[4]? =
      some (shown r.status) := rfl
  simp only [second, third, fifth, rows, columns, outcome', bind, Except.bind, skipped]
  cases readEntries .empty r.columns.length _ <;> rfl

theorem read_ok (sound : r.IsSound outcome) (aligned : r.wrapped = 0 ∨ r.columns = []) :
    read r.content = .ok (.ofResults outcome
      (Sparse.empty.setAll (r.columns.map fun e => (e.name, e.value)))) := by
  rw [read_content sound]
  rcases aligned with none | none
  · have skipped : r.left = [] := by
      rw [← List.length_eq_zero_iff, length_left sound.rows, none]
    rw [skipped, List.map_nil, List.nil_append, readEntries_prints sound.columns sound.entries]
    rfl
  · rw [none]
    rfl

/-- The reader takes the lines that it should have skipped for columns. -/
theorem left_cases (sound : r.IsSound outcome) (wraps : 0 < r.wrapped) :
    (r.wrapped ≤ 3 ∧ ∃ line ∈ between, ∃ more, r.left = line :: more) ∨
      (3 < r.wrapped ∧ r.left = r.rowLines.drop (r.rows.length + 3) ++ between) := by
  have length := sound.rows.length
  rw [← wrapped] at length
  unfold left
  by_cases few : r.wrapped ≤ 3
  · refine .inl ⟨few, ?_⟩
    have headings : (r.rowLines ++ between).drop (r.rows.length + 3) =
        between.drop (3 - r.wrapped) := by
      rw [List.drop_append, List.drop_eq_nil_of_le (by omega), List.nil_append, length]
      congr 1
      omega
    rw [headings]
    -- the last heading, the last two, or all three are taken for columns
    obtain number | number | number : r.wrapped = 1 ∨ r.wrapped = 2 ∨ r.wrapped = 3 := by omega
    all_goals rw [number]
    · exact ⟨dashes, by simp [between], _, rfl⟩
    · exact ⟨heading, by simp [between], _, rfl⟩
    · exact ⟨[], by simp [between], _, rfl⟩
  · refine .inr ⟨by omega, List.drop_append_of_le_length (by omega)⟩

theorem readEntry_between {line : List Char} (listed : line ∈ between) :
    (Text.words (Text.dropReturn '\r' line)).length ≠ 2 ∧
      ∃ cause, readEntry (Text.dropReturn '\r' line) = .error cause := by
  simp only [between, List.mem_cons, List.not_mem_nil, or_false] at listed
  rcases listed with rfl | rfl | rfl
  · exact ⟨by decide, _, rfl⟩
  · exact ⟨by decide, _, rfl⟩
  · exact ⟨by decide, _, rfl⟩

theorem read_error (sound : r.IsSound outcome) (wraps : 0 < r.wrapped) (few : r.wrapped ≤ 3)
    (columns : r.columns ≠ []) : ∃ cause, read r.content = .error cause := by
  rcases left_cases sound wraps with ⟨-, line, listed, more, left⟩ | ⟨many, -⟩
  · obtain ⟨single, cause, failed⟩ := readEntry_between listed
    obtain ⟨n, count⟩ := Nat.exists_eq_succ_of_ne_zero (mt List.length_eq_zero_iff.1 columns)
    refine ⟨cause, ?_⟩
    rw [read_content sound, left, count, List.map_cons, List.cons_append, shown,
      readEntries_single single, failed]
    rfl
  · omega

theorem mem_rowLines_of_read (sound : r.IsSound outcome) (wraps : 0 < r.wrapped)
    (columns : r.columns ≠ []) {s : Solution} (success : read r.content = .ok s) {name : String}
    {x : Float} (found : s.results.get? name = some x) :
    ∃ line ∈ r.rowLines, name.toList ∈ Text.words line := by
  rcases left_cases sound wraps with ⟨few, -⟩ | ⟨-, left⟩
  · obtain ⟨cause, failed⟩ := read_error sound wraps few columns
    rw [failed] at success
    cases success
  · have lines : r.left.map shown ++ (r.columnLines.map shown ++
        (Text.byteLines r.after).map Text.decodeLine) =
        ((r.rowLines.drop (r.rows.length + 3)).map (Text.dropReturn '\r')).map some ++
          some [] :: ([heading, dashes].map shown ++ (r.columnLines.map shown ++
            (Text.byteLines r.after).map Text.decodeLine)) := by
      rw [left, List.map_append, List.map_map, List.append_assoc]
      rfl
    rw [read_content sound, lines] at success
    obtain ⟨results, entries, rfl⟩ := reading_map_ok_iff.1 success
    rcases readEntries_before rfl entries found with none | ⟨line, listed, word⟩
    · cases none
    · obtain ⟨row, dropped, rfl⟩ := List.mem_map.1 listed
      rw [Text.words_dropReturn] at word
      exact ⟨row, List.mem_of_mem_drop dropped, word⟩

end

def sample (rows columns : List Entry) : Report where
  title := "Problem:".toList
  rowCount := Text.spaced ["Rows:".toList, Nat.toDigits 10 rows.length]
  columnCount := Text.spaced ["Columns:".toList, Nat.toDigits 10 columns.length]
  nonZeros := "Non-zeros:  1".toList
  status := "Status:     OPTIMAL".toList
  objective := "Objective:  obj = 3 (MINimum)".toList
  blank := []
  rowHeading := heading
  rowDashes := dashes
  rows := rows
  rowLines := rows.flatMap Entry.lines
  columns := columns
  columnLines := columns.flatMap Entry.lines
  after := "\nEnd of output\n".toUTF8

def basic (name : String) : Entry where
  number := ['1']
  name := name
  status := ['B']
  activity := ['3']
  further := [['0']]
  value := Decimal.toFloat ⟨3, 0⟩

theorem basic_isSound {name : String} (word : Lp.IsLineWord name.toList) : (basic name).IsSound := by
  refine ⟨fun w listed => ?_, rfl⟩
  simp only [Entry.front, Entry.back, basic, List.cons_append, List.nil_append, List.mem_cons,
    List.not_mem_nil, or_false] at listed
  rcases listed with rfl | rfl | rfl | rfl | rfl
  · exact (Lp.IsLineWord.of_all (by decide) (by decide)).word
  · exact word.word
  all_goals exact (Lp.IsLineWord.of_all (by decide) (by decide)).word

theorem sample_isSound {row column : String} (word : Lp.IsLineWord row.toList)
    (word' : Lp.IsLineWord column.toList)
    (noFeed : ∀ line ∈ (sample [basic row] [basic column]).lines, '\n' ∉ line) :
    (sample [basic row] [basic column]).IsSound .optimal := by
  have rows : ∀ e ∈ [basic row], e.IsSound := by simpa using basic_isSound word
  have columns : ∀ e ∈ [basic column], e.IsSound := by simpa using basic_isSound word'
  exact {
    noFeed := noFeed
    rowCount := Text.spread_spaced (words_size isWordText_rows 1)
    columnCount := Text.spread_spaced (words_size isWordText_columns 1)
    status := ⟨"OPTIMAL", [], rfl, List.forall_mem_nil _, rfl⟩
    rows := prints_lines fun e listed => (rows e listed).words
    columns := prints_lines fun e listed => (columns e listed).words
    entries := columns
    fits := ⟨(by decide : 1 + 7 < UInt64.size), (by decide : 1 < UInt64.size)⟩ }

/-- If no row name is too long, each column has its activity, and there is nothing else.  If some row
name is, no column entry is read: reading fails, or takes lines of rows for columns. -/
theorem columns_read_back {r : Report} {outcome : Outcome} (sound : r.IsSound outcome) :
    (r.wrapped = 0 ∨ r.columns = [] → ∃ s, read r.content = .ok s ∧ s.outcome = outcome ∧
      (∀ name, s.results.get? name = (r.values name).getLast?) ∧
      s.reducedCosts = .empty ∧ s.duals = .empty) ∧
    (0 < r.wrapped → r.columns ≠ [] →
      (r.wrapped ≤ 3 → ∃ cause, read r.content = .error cause) ∧
      ∀ s, read r.content = .ok s → ∀ name x, s.results.get? name = some x →
        ∃ line ∈ r.rowLines, name.toList ∈ Text.words line) := by
  constructor
  · intro aligned
    refine ⟨_, read_ok sound aligned, rfl, fun name => ?_, rfl, rfl⟩
    show (Sparse.empty.setAll _).get? name = _
    rw [Sparse.get?_setAll]
    exact Option.or_none
  · intro wraps columns
    exact ⟨fun few => read_error sound wraps few columns,
      fun s success name x found => mem_rowLines_of_read sound wraps columns success found⟩

theorem columns_read_back_longNames :
    (sample [basic "c1"] [basic "a_rather_long_name"]).IsSound .optimal ∧
    (sample [basic "a_rather_long_name"] [basic "x"]).IsSound .optimal ∧
    (∃ s, read (sample [basic "c1"] [basic "a_rather_long_name"]).content = .ok s ∧
      s.results.get? "a_rather_long_name" = some (Decimal.toFloat ⟨3, 0⟩)) ∧
    ∃ cause, read (sample [basic "a_rather_long_name"] [basic "x"]).content = .error cause := by
  have long : Lp.IsLineWord "a_rather_long_name".toList := .of_all (by decide) (by decide)
  have column : (sample [basic "c1"] [basic "a_rather_long_name"]).IsSound .optimal :=
    sample_isSound (.of_all (by decide) (by decide)) long (by decide)
  have row : (sample [basic "a_rather_long_name"] [basic "x"]).IsSound .optimal :=
    sample_isSound long (.of_all (by decide) (by decide)) (by decide)
  obtain ⟨s, success, -, results, -⟩ := (columns_read_back column).1 (.inl (by decide))
  refine ⟨column, row, ⟨s, success, (results _).trans ?_⟩, ?_⟩
  · rfl
  · exact ((columns_read_back row).2 (by decide) (List.cons_ne_nil _ _)).1 (by decide)

end Report

end LinProg.GlpkReport
