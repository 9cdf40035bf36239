import Mathlib
import LinProg.Proofs.Lp.Cut
import LinProg.Proofs.Text.Slice

/-!
# Scanning a text for relations

A text can be cut at its relations byte by byte, without decoding it: a scan looks at one byte and the next,
and slices off an operand wherever a relation begins.  Such a scan comes to the end of every text, slices it
on character boundaries only, and finds the cut of the text (`scanRelations_cuts`).
-/

namespace LinProg.Lp
open Text (IsSpace trim bytesOf slice?)

/-- The relation that two bytes spell, read as characters, and the number of those that spell it. -/
def relationAt : Char → Option Char → Option (Relation × Nat)
  | '<', some '=' | '=', some '<' => some (.le, 2)
  | '>', some '=' | '=', some '>' => some (.ge, 2)
  | '<', _ => some (.le, 1)
  | '>', _ => some (.ge, 1)
  | '=', _ => some (.eq, 1)
  | _, _ => none

/-- How far a text has been scanned: the operands and the relations found, the byte at which the next
operand starts, and the byte to look at. -/
structure Scan where
  operands : List (List Char)
  relations : List Relation
  start : Nat
  position : Nat

theorem relationAt_width_pos {c : Char} {next : Option Char} {r : Relation} {width : Nat}
    (found : relationAt c next = some (r, width)) : 0 < width := by
  unfold relationAt at found
  split at found <;> cases found <;> decide

namespace Scan

/-- Passes a byte that begins no relation, or slices off the operand before a relation and passes that. -/
def step (text : String) (s : Scan) (inside : s.position < text.toUTF8.size) : Option Scan :=
  match relationAt text.toUTF8[s.position].toChar
      (text.toUTF8[s.position + 1]?.map UInt8.toChar) with
  | none => some { s with position := s.position + 1 }
  | some (r, width) => (slice? text s.start s.position).map fun operand =>
    ⟨s.operands ++ [trim operand], s.relations ++ [r], s.position + width, s.position + width⟩

theorem position_lt_of_step {text : String} {s t : Scan} {inside : s.position < text.toUTF8.size}
    (stepped : s.step text inside = some t) : s.position < t.position := by
  unfold step at stepped
  split at stepped
  · cases stepped
    exact Nat.lt_succ_self _
  · rename_i found
    obtain ⟨operand, -, rfl⟩ := Option.map_eq_some_iff.1 stepped
    exact Nat.lt_add_of_pos_right (relationAt_width_pos found)

/-- Scans what is left of a text, and slices off the last operand at its end. -/
def run (text : String) (s : Scan) : Option (List (List Char) × List Relation) :=
  if inside : s.position < text.toUTF8.size then
    match stepped : s.step text inside with
    | some t =>
      -- a step passes one byte at least, so that the scan comes to an end
      have := position_lt_of_step stepped
      t.run text
    | none => none
  else (slice? text s.start text.toUTF8.size).map fun operand =>
    (s.operands ++ [trim operand], s.relations)
termination_by text.toUTF8.size - s.position
decreasing_by omega

end Scan

/-- The operands and the relations of a text, or none if it is sliced inside a character. -/
def scanRelations (text : String) : Option (List (List Char) × List Relation) :=
  Scan.run text ⟨[], [], 0, 0⟩

def Cut.relations (k : Cut) : List Relation := k.rest.map (·.1)

variable {k : Cut} {text before symbol after : List Char} {r : Relation} {c : Char}

/-! ### Marks among bytes -/

theorem eq_toChar_of_mark {byte : UInt8} (mark : byte.toChar ∈ relationMarks)
    (member : byte ∈ String.utf8EncodeChar c) : c = byte.toChar := by
  have ascii : relationMarks.all (·.toNat < 128) = true := by decide
  have small : byte.toNat < 128 := of_decide_eq_true (List.all_eq_true.1 ascii _ mark)
  exact Char.toNat_inj.1 (Text.mem_utf8EncodeChar small member).2

theorem toChar_not_mark (bare : ∀ c ∈ before, c ∉ relationMarks) :
    ∀ byte ∈ bytesOf before, byte.toChar ∉ relationMarks := by
  intro byte member mark
  obtain ⟨c, listed, inside⟩ := List.mem_flatMap.1 member
  exact bare c listed (eq_toChar_of_mark mark inside ▸ mark)

theorem map_toChar_bytesOf (marks : symbol ⊆ relationMarks) :
    (bytesOf symbol).map UInt8.toChar = symbol := by
  induction symbol with
  | nil => rfl
  | cons c symbol ih =>
    obtain ⟨mark, others⟩ := List.cons_subset.1 marks
    have single : relationMarks.all
        (fun c => (String.utf8EncodeChar c).map UInt8.toChar = [c]) = true := by decide
    have one := of_decide_eq_true (List.all_eq_true.1 single c mark)
    rw [← List.singleton_append, Text.bytesOf_append, Text.bytesOf_singleton, List.map_append, one,
      ih others]

theorem length_bytesOf_of_marks (marks : symbol ⊆ relationMarks) :
    (bytesOf symbol).length = symbol.length := by
  rw [← List.length_map UInt8.toChar, map_toChar_bytesOf marks]

theorem IsLongest.ends_bytes (longest : IsLongest symbol (symbol ++ text)) :
    ∀ d ∈ ((bytesOf text).map UInt8.toChar).head?, ∀ s, symbol ++ [d] ∉ spellings s := by
  intro d head s spelling
  have mark : d ∈ relationMarks := by
    by_contra other
    exact not_spelling_of_not_mark other spelling
  cases text with
  | nil => cases head
  | cons c text =>
    -- the next byte begins a character, which is that mark if the byte reads as one
    obtain ⟨first, others, encoded⟩ :=
      List.exists_cons_of_ne_nil (String.utf8EncodeChar_ne_nil (c := c))
    have member : first ∈ String.utf8EncodeChar c := encoded ▸ List.mem_cons_self
    rw [← List.singleton_append, Text.bytesOf_append, Text.bytesOf_singleton, encoded] at head
    obtain rfl : first.toChar = d := by simpa using head
    obtain rfl := eq_toChar_of_mark mark member
    exact longest.ends _ rfl s spelling

theorem relationAt_eq_none (other : c ∉ relationMarks) (next : Option Char) :
    relationAt c next = none := by
  obtain ⟨less, greater, equal⟩ := not_mem_relationMarks.1 other
  unfold relationAt
  split <;> simp_all

/-- A spelling is found as a whole, unless what follows lengthens it. -/
theorem relationAt_of_spelling (spelling : symbol ∈ spellings r)
    (ends : ∀ c ∈ text.head?, ∀ s, symbol ++ [c] ∉ spellings s) :
    ∃ c more, symbol = c :: more ∧ relationAt c (more ++ text).head? = some (r, symbol.length) := by
  cases text with
  | nil => cases r <;> fin_cases spelling <;> exact ⟨_, _, rfl, rfl⟩
  | cons d text =>
    have less := ends d rfl .le
    have greater := ends d rfl .ge
    cases r <;> fin_cases spelling <;> refine ⟨_, _, rfl, ?_⟩ <;> simp_all [spellings, relationAt]

/-! ### Steps of a scan -/

namespace Scan
variable {s t : Scan} {done : List Char}

theorem run_of_step {text : String} (inside : s.position < text.toUTF8.size)
    (stepped : s.step text inside = some t) : s.run text = t.run text := by
  rw [run, dif_pos inside]
  split
  · rename_i other
    rw [stepped] at other
    rw [Option.some.inj other]
  · rename_i none
    rw [stepped] at none
    cases none

theorem run_skip {bytes more : List UInt8} (other : ∀ byte ∈ bytes, byte.toChar ∉ relationMarks)
    (left : (bytesOf text).drop s.position = bytes ++ more) :
    s.run (String.ofList text) =
      run (String.ofList text) { s with position := s.position + bytes.length } := by
  induction bytes generalizing s with
  | nil => rfl
  | cons byte bytes ih =>
    obtain ⟨first, others⟩ := List.forall_mem_cons.1 other
    obtain ⟨inside, value, -, rest⟩ := Text.getElem_of_drop_bytesOf left
    have stepped : s.step (String.ofList text) inside =
        some { s with position := s.position + 1 } := by
      unfold step
      rw [value, relationAt_eq_none first]
    rw [run_of_step inside stepped, ih others rest, List.length_cons, Nat.add_assoc, Nat.add_comm 1]

/-- The text up to the next mark is passed over, whatever the width of its characters. -/
theorem run_bare (bare : ∀ c ∈ before, c ∉ relationMarks)
    (reached : s.position = (bytesOf done).length) :
    s.run (String.ofList (done ++ before ++ text)) = run (String.ofList (done ++ before ++ text))
      { s with position := (bytesOf (done ++ before)).length } := by
  have left : (bytesOf (done ++ before ++ text)).drop s.position =
      bytesOf before ++ bytesOf text := by
    rw [reached, List.append_assoc, Text.drop_bytesOf, Text.bytesOf_append]
  rw [run_skip (toChar_not_mark bare) left, reached, Text.bytesOf_append done before,
    List.length_append]

/-- At a relation, the operand before it is sliced off, and its spelling is passed as a whole. -/
theorem run_relation (spelling : symbol ∈ spellings r)
    (longest : IsLongest symbol (symbol ++ after))
    (left : (bytesOf text).drop s.position = bytesOf (symbol ++ after))
    (sliced : slice? (String.ofList text) s.start s.position = some before) :
    s.run (String.ofList text) = run (String.ofList text)
      ⟨s.operands ++ [trim before], s.relations ++ [r], s.position + symbol.length,
        s.position + symbol.length⟩ := by
  obtain ⟨c, more, shape, found⟩ := relationAt_of_spelling spelling longest.ends_bytes
  have ascii := map_toChar_bytesOf (subset_relationMarks spelling)
  rw [shape] at ascii
  obtain ⟨byte, bytes, encoded, rfl, rfl⟩ := List.map_eq_cons_iff.1 ascii
  rw [Text.bytesOf_append, shape, encoded, List.cons_append] at left
  obtain ⟨inside, value, next, -⟩ := Text.getElem_of_drop_bytesOf left
  refine run_of_step inside ?_
  unfold step
  rw [value, next, ← List.head?_map, List.map_append, found]
  dsimp only
  rw [sliced]
  rfl

theorem run_last (bare : ∀ c ∈ before, c ∉ relationMarks)
    (started : s.start = (bytesOf done).length) (reached : s.position = (bytesOf done).length) :
    s.run (String.ofList (done ++ before)) = some (s.operands ++ [trim before], s.relations) := by
  have skipped : s.run (String.ofList (done ++ before ++ [])) = _ := run_bare bare reached
  have sliced := Text.slice?_middle done before []
  rw [List.append_nil] at skipped sliced
  have ended : ¬ (bytesOf (done ++ before)).length <
      (String.ofList (done ++ before)).toUTF8.size := by
    rw [Text.size_toUTF8]
    exact lt_irrefl _
  rw [skipped, run, dif_neg ended, Text.size_toUTF8, started, sliced]
  rfl

/-! ### Whole scans -/

/-- Scanning what is left of a text finds its cut. -/
theorem run_of_isCut (isCut : IsCut k text) : ∀ (done : List Char) {s : Scan},
    s.start = (bytesOf done).length → s.position = (bytesOf done).length →
      s.run (String.ofList (done ++ text)) =
        some (s.operands ++ k.operands, s.relations ++ k.relations) := by
  -- between two relations of the cut, the scan is always at the byte where the next operand starts
  induction isCut with
  | @last front w back space space' operand =>
    intro done s started reached
    rw [run_last (operand.bare_between space space') started reached,
      operand.trim_between space space']
    exact congrArg (fun relations => some (s.operands ++ [w], relations)) (List.append_nil _).symm
  | @relation front w back symbol after r k space space' operand first rest ih =>
    intro done s started reached
    have bare := operand.bare_between space space'
    have trimmed := operand.trim_between space space'
    generalize front ++ w ++ back = before at first bare trimmed ⊢
    have sliced := Text.slice?_middle done before (symbol ++ after)
    have passed : (bytesOf (done ++ before)).length + symbol.length =
        (bytesOf (done ++ before ++ symbol)).length := by
      rw [Text.bytesOf_append _ symbol, List.length_append,
        length_bytesOf_of_marks (subset_relationMarks first.spelling)]
    rw [List.append_assoc, ← List.append_assoc, run_bare bare reached,
      run_relation first.spelling first.longest (Text.drop_bytesOf _ _) (started ▸ sliced),
      ← List.append_assoc _ symbol]
    dsimp only
    rw [passed, ih _ rfl rfl, trimmed]
    simp only [List.append_assoc, List.singleton_append]
    rfl

end Scan

theorem scanRelations_of_isCut {text : String} (isCut : IsCut k text.toList) :
    scanRelations text = some (k.operands, k.relations) := by
  have scanned := Scan.run_of_isCut isCut [] (s := ⟨[], [], 0, 0⟩) rfl rfl
  rwa [List.nil_append, String.ofList_toList] at scanned

/-- A scan of any text ends with all slices on character boundaries.  It gives the operands and relations
of the cut that the reader works with: one operand more than relations, no mark in an operand, and
each relation the leftmost one of what is left, in its longest spelling there.  Operands that are put
together with any spellings between them are found again, if none between two relations is empty. -/
theorem scanRelations_cuts (text : String) :
    ∃ operands relations, scanRelations text = some (operands, relations) ∧
      operands.length = relations.length + 1 ∧
      (∀ w ∈ operands, ∀ c ∈ w, c ∉ relationMarks) ∧
      (∃ k, splitRelations text.toList = k ∧ IsCut k text.toList ∧ k.operands = operands ∧
        k.relations = relations) ∧
      ∀ k : Cut, (∀ w ∈ k.operands, IsOperand w) → k.Separated → Spelled k text.toList →
        k.operands = operands ∧ k.relations = relations := by
  obtain ⟨k, isCut⟩ := exists_isCut text.toList
  have single := isCut.splitRelations_eq
  refine ⟨k.operands, k.relations, scanRelations_of_isCut isCut, ?_,
    fun w listed => (isCut.operands w listed).bare, ⟨k, single, isCut, rfl, rfl⟩,
    fun joined operands separated spelled => ?_⟩
  · simp [Cut.operands, Cut.relations]
  · obtain rfl := single.symm.trans (splitRelations_of_spelled spelled operands separated)
    exact ⟨rfl, rfl⟩

/-- The cut of a bound line whose name takes more than one byte. -/
def accentedCut : Cut := ⟨['-', '1'], [(.le, ['é']), (.le, ['3'])]⟩

theorem scanRelations_cuts_accented :
    (∀ w ∈ accentedCut.operands, IsOperand w) ∧ accentedCut.Separated ∧
      Spelled accentedCut "-1=<é<3".toList ∧
      scanRelations "-1=<é<3" = some (accentedCut.operands, accentedCut.relations) := by
  have none : IsSpace [] := List.forall_mem_nil _
  have one : IsOperand ['-', '1'] := ⟨by simp [relationMarks], by decide⟩
  have accented : IsOperand ['é'] := ⟨by simp [relationMarks], by decide⟩
  have three : IsOperand ['3'] := ⟨by simp [relationMarks], by decide⟩
  have operands : ∀ w ∈ accentedCut.operands, IsOperand w := by
    intro w listed
    fin_cases listed
    exacts [one, accented, three]
  have separated : accentedCut.Separated := by
    intro operand listed
    fin_cases listed
    decide
  have long : ['=', '<'] ∈ spellings .le := by decide
  have short : ['<'] ∈ spellings .le := by decide
  have spelled : Spelled accentedCut "-1=<é<3".toList :=
    .relation none none long (.relation none none short (.last none none))
  obtain ⟨_, _, scanned, -, -, -, again⟩ := scanRelations_cuts "-1=<é<3"
  obtain ⟨rfl, rfl⟩ := again accentedCut operands separated spelled
  exact ⟨operands, separated, spelled, scanned⟩

end LinProg.Lp
