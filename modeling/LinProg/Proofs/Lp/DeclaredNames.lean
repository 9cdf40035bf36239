import Mathlib
import LinProg.Proofs.Lp.Arrival
import LinProg.Proofs.Lp.ReadLines

/-!
# Which names are checked

Names in expressions are valid and no numbers, and names that are compared in bound lines are valid.  The
lines of `Generals` and `Binaries` and bound lines with `free` take any word (`declared_names`).
-/

namespace LinProg.Lp
open Number (isNumber)
open Operation (reading_bind_ok_iff)

/-- A name that cannot be taken for anything else in an expression. -/
structure IsWellFormed (name : String) : Prop where
  valid : isValidName name.toList = true
  other : isNumber name.toList = false

/-- Whether a line may have a name where it stands. -/
def Statement.Admits (s : Statement) (name : String) : Prop :=
  match s.stage with
  | .preamble => False
  | .objective | .constraints => IsWellFormed name
  | .bounds => isFreeLine s.text = true ∨ isValidName name.toList = true
  | .generals | .binaries => True

namespace TermState

variable {s t : TermState} {w : List Char} {ws : List (List Char)} {name : String}

theorem admitted_of_takeWord (h : s.takeWord w = .ok t) (named : nameIn? w = some name) :
    IsWellFormed name := by
  unfold nameIn? at named
  split at named
  · cases named
  · rename_i operand
    cases named
    obtain ⟨some, other⟩ := not_or.1 operand
    refine ⟨?_, (congrArg isNumber String.toList_ofList).trans (Bool.eq_false_iff.2 other)⟩
    rw [String.toList_ofList]
    obtain ⟨rest, next, taken, -, shape⟩ := takeWord_cases h
    rcases shape with rfl | ⟨-, number⟩
    · rcases takeOperand_cases taken with ⟨none, -⟩ | ⟨number, -⟩ | ⟨-, -, valid, -⟩
      · exact absurd none some
      · exact absurd number other
      · exact valid
    · exact absurd number other

theorem admitted_of_takeWords (h : ws.foldlM takeWord s = .ok t)
    (named : name ∈ ws.filterMap nameIn?) : IsWellFormed name := by
  induction ws generalizing s with
  | nil => cases named
  | cons w ws ih =>
    rw [List.foldlM_cons] at h
    obtain ⟨next, taken, rest⟩ := reading_bind_ok_iff.1 h
    obtain ⟨v, listed, shape⟩ := List.mem_filterMap.1 named
    rcases List.mem_cons.1 listed with rfl | later
    · exact admitted_of_takeWord taken shape
    · exact ih rest (List.mem_filterMap.2 ⟨v, later, shape⟩)

end TermState

theorem admitted_of_readTerms {expression : List Char} {given : List (String × Float) × Float}
    (h : readTerms expression = .ok given) {name : String} (named : name ∈ namesIn expression) :
    IsWellFormed name := by
  obtain ⟨state, taken, -⟩ := reading_bind_ok_iff.1 h
  exact TermState.admitted_of_takeWords taken named

theorem BoundLine.admitted_of_read {text : List Char} {line : BoundLine}
    (h : BoundLine.read text = .ok line) :
    isFreeLine text = true ∨ isValidName line.name = true := by
  rcases BoundLine.read_cases h with ⟨free, -⟩ | ⟨-, -, valid⟩
  · exact .inl free
  · exact .inr valid

/-- A line that is taken has no name that it must not have. -/
theorem admitted_of_takeContent {s t : ReadState} {text : List Char}
    (h : s.takeContent text = .ok t) :
    ∀ name ∈ Statement.names ⟨s.stage, text⟩, Statement.Admits ⟨s.stage, text⟩ name := by
  intro name named
  unfold ReadState.takeContent at h
  unfold Statement.names at named
  unfold Statement.Admits
  cases stage : s.stage with
  | preamble =>
    rw [stage] at h
    cases h
  | objective =>
    rw [stage] at h named
    obtain ⟨given, read, -⟩ := reading_bind_ok_iff.1 h
    exact admitted_of_readTerms read named
  | constraints =>
    rw [stage] at h named
    obtain ⟨left, relation, right, given, rhs, cut, read, limit, -⟩ := ReadState.takeRow_cases h
    exact admitted_of_readTerms read (Statement.names_row cut limit ▸ named)
  | bounds =>
    rw [stage] at h named
    obtain ⟨line, read, -⟩ := reading_bind_ok_iff.1 h
    obtain rfl := List.mem_singleton.1 named
    rw [String.toList_ofList, ← BoundLine.read_name read]
    exact BoundLine.admitted_of_read read
  | generals | binaries => exact trivial

theorem read_freeWords {name : List Char} (word : IsLineWord name) :
    BoundLine.read (Text.spaced [name, "free".toList]) =
      .ok ⟨name, some (-Number.infinity), some Number.infinity⟩ := by
  have words : ∀ w ∈ [name, "free".toList], Text.IsWordText w := by
    intro w listed
    simp only [List.mem_cons, List.not_mem_nil, or_false] at listed
    rcases listed with rfl | rfl
    · exact word.word
    · exact (IsLineWord.of_all (by decide) (by decide)).word
  unfold BoundLine.read
  rw [Text.words_spaced words]
  rfl

theorem read_freeLine {name : String} (word : IsLineWord name.toList) :
    (read ("Bounds\n" ++ name ++ " free\n")).map (·.declared) =
      .ok [⟨name, -Number.infinity, Number.infinity, .continuous⟩] := by
  have opens : ∀ w ∈ ["Bounds".toList], IsLineWord w := by
    intro w listed
    rw [List.mem_singleton.1 listed]
    exact .of_all (by decide) (by decide)
  have words : ∀ w ∈ [name.toList, "free".toList], IsLineWord w := by
    intro w listed
    simp only [List.mem_cons, List.not_mem_nil, or_false] at listed
    rcases listed with rfl | rfl
    · exact word
    · exact .of_all (by decide) (by decide)
  have text : ("Bounds\n" ++ name ++ " free\n").toList =
      Text.spaced ["Bounds".toList] ++
        '\n' :: ([] ++ Text.spaced [name.toList, "free".toList] ++ '\n' :: []) := by
    simp [String.toList_append, Text.spaced_cons, Text.spaced_singleton]
  have other : 'f' ∈ Text.spaced [name.toList, "free".toList] :=
    Text.mem_spaced_of_mem (List.mem_cons_of_mem _ (List.mem_singleton_self _)) (by decide)
  have plain := not_keyword_of_mem (by decide) other
  let opened : ReadState := ReadState.start.openSection .bounds none
  have taken : opened.takeContent (Text.spaced [name.toList, "free".toList]) =
      BoundLine.read (Text.spaced [name.toList, "free".toList]) >>= fun line => return { opened with
        table := opened.table.bound (String.ofList line.name) line.apply } := rfl
  rw [read_freeWords word] at taken
  have keyword : sectionKeyword (Text.spaced ["Bounds".toList]) = some (.bounds, none) := by
    decide +kernel
  unfold read
  rw [text, readLines_keyword _ (List.cons_ne_nil _ _) opens keyword (by decide +kernel),
    readLines_content (by simp) (List.cons_ne_nil _ _) words plain.1 plain.2 taken]
  show Except.ok (VariableTable.ordered (VariableTable.empty.bound (String.ofList name.toList) _)) = _
  rw [String.ofList_toList]
  simp [VariableTable.ordered, VariableTable.bound, VariableTable.update, VariableTable.enter,
    VariableTable.empty, VariableTable.fresh, BoundLine.apply, List.eraseDups_cons]

/-- A name that its line must not have is an error of this line.  So the variables of an accepted text
are well-formed if and only if those are that `Bounds`, `Generals` and `Binaries` mention. -/
theorem declared_names (text : String) :
    (∀ d, read text = .ok d →
      (∀ line ∈ statements text, ∀ name ∈ line.names, line.Admits name) ∧
      ((∀ v ∈ d.declared, IsWellFormed v.name) ↔ ∀ line ∈ statements text,
        line.stage ∈ [.bounds, .generals, .binaries] → ∀ name ∈ line.names, IsWellFormed name)) ∧
    ∀ a : TextArrival text, ∀ name ∈ a.statement.names, ¬a.statement.Admits name →
      ∃ fault, read text = .error ⟨a.number, fault⟩ := by
  refine ⟨fun d accepted => ?_, ?_⟩
  · have admitted : ∀ line ∈ statements text, ∀ name ∈ line.names, line.Admits name := by
      rintro ⟨stage, content⟩ listed
      obtain ⟨s, t, rfl, taken⟩ := exists_taken accepted listed
      exact admitted_of_takeContent taken
    have listed := (read_accounts accepted).listed
    refine ⟨admitted, fun all line member _ name named => ?_, fun all v declared => ?_⟩
    · obtain ⟨v, declared, rfl⟩ := List.mem_map.1 ((listed name).2 ⟨line, member, named⟩)
      exact all v declared
    · obtain ⟨line, member, named⟩ := (listed v.name).1 (List.mem_map_of_mem declared)
      have ownCheck := admitted line member v.name named
      have otherLine := all line member
      unfold Statement.Admits at ownCheck
      cases stage : line.stage with
      | preamble =>
        rw [stage] at ownCheck
        exact ownCheck.elim
      | objective | constraints =>
        rw [stage] at ownCheck
        exact ownCheck
      | bounds | generals | binaries => exact otherLine (by simp [stage]) v.name named
  · intro a name named refused
    cases result : a.state.takeContent a.statement.text with
    | ok next => exact absurd (admitted_of_takeContent result name named) refused
    | error fault => exact ⟨fault, a.error_iff.2 result⟩

/-- A number with a letter is no name in an objective. -/
def numberedLine : TextArrival "Minimize\n 2y\nEnd\n" where
  before := ["Minimize".toList]
  line := " 2y".toList
  after := ["End".toList]
  state := ⟨.objective, "", .minimize, [], [], .empty⟩
  split := by decide +kernel
  ongoing := by decide +kernel
  accepted := by rfl
  nonempty := by decide +kernel
  notEnd := by decide +kernel
  notKeyword := by decide +kernel

theorem declared_names_of_numbers :
    (∃ d, read "Bounds\n3 free\n" = .ok d ∧ ¬∀ v ∈ d.declared, IsWellFormed v.name) ∧
      ∃ fault, read "Minimize\n 2y\nEnd\n" = .error ⟨2, fault⟩ := by
  constructor
  · have declared := @read_freeLine "3" (.of_all (by decide) (by decide))
    obtain ⟨d, read, -⟩ := Operation.reading_map_ok_iff.1 declared
    have listed : ⟨.bounds, "3 free".toList⟩ ∈ statements "Bounds\n3 free\n" := .head _
    refine ⟨d, read, fun all => ?_⟩
    obtain ⟨-, met⟩ := (declared_names "Bounds\n3 free\n").1 d read
    have valid := (met.1 all _ listed (by decide) "3" (by decide +kernel)).valid
    revert valid
    decide +kernel
  · refine (declared_names "Minimize\n 2y\nEnd\n").2 numberedLine "2y" (by decide +kernel) ?_
    rintro ⟨valid, -⟩
    revert valid
    decide +kernel

end LinProg.Lp
