import Mathlib
import LinProg.Proofs.Lp.Listing

/-!
# The line that is refused

The reader arrives at a line if it accepts the lines before it and none of them ends the text.  A text is
refused with the number of such a line if and only if that line is refused (`TextArrival.error_iff`), and
in an accepted text every statement is taken (`exists_taken`).
-/

namespace LinProg.Lp
open Operation (reading_map_ok_iff)

namespace ReadState

theorem takeContent_noted (s : ReadState) (comment : Option (List Char)) (text : List Char) :
    (s.noted comment).takeContent text = s.takeContent text := by
  cases comment with
  | none => rfl
  | some comment =>
    unfold noted takeComment
    dsimp only
    split
    · -- only the preamble takes a name, and it has no content
      rename_i first
      unfold takeContent
      rw [first.1]
    · rfl

end ReadState

/-! ### Lines in a row -/

variable {n : Nat} {s t : ReadState} {before lines : List (List Char)}

def Ongoing (lines : List (List Char)) : Prop :=
  ∀ raw ∈ lines, isWord "end" (splitComment raw).1 = false

instance (lines : List (List Char)) : Decidable (Ongoing lines) :=
  inferInstanceAs (Decidable (∀ raw ∈ lines, _))

theorem readLines_append (ongoing : Ongoing before) (n : Nat) (s : ReadState)
    (rest : List (List Char)) :
    readLines n s (before ++ rest) =
      readLines n s before >>= fun t => readLines (n + before.length) t rest := by
  induction before generalizing n s with
  | nil => rfl
  | cons raw before ih =>
    obtain ⟨goesOn, others⟩ := List.forall_mem_cons.1 ongoing
    have count : n + (raw :: before).length = n + 1 + before.length := by
      rw [List.length_cons]
      omega
    rw [List.cons_append, ReadState.readLines_cons, ReadState.readLines_cons, goesOn, count]
    by_cases empty : (splitComment raw).1 = []
    · rw [if_pos empty, if_pos empty]
      exact ih others (n + 1) _
    rw [if_neg empty, if_neg empty, if_neg Bool.false_ne_true, if_neg Bool.false_ne_true]
    cases sectionKeyword (splitComment raw).1 with
    | some opened => exact ih others (n + 1) _
    | none =>
      dsimp only
      cases (s.noted (splitComment raw).2).takeContent (splitComment raw).1 with
      | ok next => exact ih others (n + 1) next
      | error fault => rfl

theorem le_line_of_readLines {e : ReadError} (refused : readLines n s lines = .error e) :
    n ≤ e.line := by
  induction lines generalizing n s with
  | nil => cases refused
  | cons raw lines ih =>
    rw [ReadState.readLines_cons] at refused
    split at refused
    · exact Nat.le_of_succ_le (ih refused)
    · split at refused
      · cases refused
      · split at refused
        · exact Nat.le_of_succ_le (ih refused)
        · split at refused
          · exact Nat.le_of_succ_le (ih refused)
          · cases refused
            exact Nat.le_refl n

/-! ### Arrivals -/

/-- A line with some content, neither a keyword nor the end, at which the reader arrives. -/
structure Arrival (n : Nat) (s : ReadState) (lines : List (List Char)) where
  before : List (List Char)
  line : List Char
  after : List (List Char)
  state : ReadState
  split : lines = before ++ line :: after
  ongoing : Ongoing before
  accepted : readLines n s before = .ok state
  nonempty : (splitComment line).1 ≠ []
  notEnd : isWord "end" (splitComment line).1 = false
  notKeyword : sectionKeyword (splitComment line).1 = none

abbrev TextArrival (text : String) : Type := Arrival 1 .start (Text.lines text.toList)

namespace Arrival

variable (a : Arrival n s lines)

def number : Nat := n + a.before.length

def statement : Statement := ⟨a.state.stage, (splitComment a.line).1⟩

theorem readLines_eq : readLines n s lines =
    match a.state.takeContent a.statement.text with
    | .ok next => readLines (a.number + 1) next a.after
    | .error fault => .error ⟨a.number, fault⟩ := by
  refine (congrArg (readLines n s) a.split).trans ?_
  rw [readLines_append a.ongoing, a.accepted]
  show readLines (n + a.before.length) a.state (a.line :: a.after) = _
  rw [ReadState.readLines_cons, if_neg a.nonempty, a.notEnd, if_neg Bool.false_ne_true, a.notKeyword]
  dsimp only
  rw [ReadState.takeContent_noted]
  rfl

/-- Later lines have larger numbers, so an error with this one is of this line. -/
theorem error_iff {fault : Fault} : readLines n s lines = .error ⟨a.number, fault⟩ ↔
    a.state.takeContent a.statement.text = .error fault := by
  rw [a.readLines_eq]
  cases a.state.takeContent a.statement.text with
  | error other => simp
  | ok next =>
    refine iff_of_false (fun refused => ?_) nofun
    dsimp only at refused
    exact Nat.not_succ_le_self a.number (le_line_of_readLines refused)

theorem taken (accepted : readLines n s lines = .ok t) :
    ∃ next, a.state.takeContent a.statement.text = .ok next := by
  rw [a.readLines_eq] at accepted
  cases result : a.state.takeContent a.statement.text with
  | ok next => exact ⟨next, rfl⟩
  | error fault =>
    rw [result] at accepted
    cases accepted

def cons {raw : List Char} {s' : ReadState} (goesOn : isWord "end" (splitComment raw).1 = false)
    (step : ∀ rest, readLines n s (raw :: rest) = readLines (n + 1) s' rest)
    (a : Arrival (n + 1) s' lines) : Arrival n s (raw :: lines) where
  before := raw :: a.before
  line := a.line
  after := a.after
  state := a.state
  split := congrArg (raw :: ·) a.split
  ongoing := List.forall_mem_cons.2 ⟨goesOn, a.ongoing⟩
  accepted := (step a.before).trans a.accepted
  nonempty := a.nonempty
  notEnd := a.notEnd
  notKeyword := a.notKeyword

end Arrival

/-- In accepted lines, the reader arrives at every statement. -/
theorem exists_arrival {statement : Statement} (accepted : readLines n s lines = .ok t)
    (listed : statement ∈ statementsFrom s.stage lines) :
    ∃ a : Arrival n s lines, a.statement = statement := by
  induction lines generalizing n s with
  | nil => cases listed
  | cons raw lines ih =>
    have later (s' : ReadState) (goesOn : isWord "end" (splitComment raw).1 = false)
        (step : ∀ rest, readLines n s (raw :: rest) = readLines (n + 1) s' rest)
        (listed : statement ∈ statementsFrom s'.stage lines) :
        ∃ a : Arrival n s (raw :: lines), a.statement = statement := by
      rw [step] at accepted
      obtain ⟨a, rfl⟩ := ih accepted listed
      exact ⟨a.cons goesOn step, rfl⟩
    rw [statementsFrom] at listed
    by_cases empty : (splitComment raw).1 = []
    · rw [if_pos empty] at listed
      refine later (s.noted (splitComment raw).2) (by rw [empty]; rfl) (fun rest => ?_) ?_
      · rw [ReadState.readLines_cons, if_pos empty]
      · rwa [ReadState.stage_noted]
    rw [if_neg empty] at listed
    cases goesOn : isWord "end" (splitComment raw).1 with
    | true =>
      rw [if_pos goesOn] at listed
      cases listed
    | false =>
      rw [goesOn, if_neg Bool.false_ne_true] at listed
      cases keyword : sectionKeyword (splitComment raw).1 with
      | some opened =>
        rw [keyword] at listed
        refine later ((s.noted (splitComment raw).2).openSection opened.1 opened.2) goesOn
          (fun rest => ?_) listed
        rw [ReadState.readLines_cons, if_neg empty, goesOn, if_neg Bool.false_ne_true, keyword]
      | none =>
        rw [keyword] at listed
        let here : Arrival n s (raw :: lines) :=
          ⟨[], raw, lines, s, rfl, List.forall_mem_nil _, rfl, empty, goesOn, keyword⟩
        rcases List.mem_cons.1 listed with rfl | listed
        · exact ⟨here, rfl⟩
        obtain ⟨next, taken⟩ : ∃ next, s.takeContent (splitComment raw).1 = .ok next :=
          here.taken accepted
        refine later next goesOn (fun rest => ?_) ?_
        · rw [ReadState.readLines_cons, if_neg empty, goesOn, if_neg Bool.false_ne_true, keyword]
          dsimp only
          rw [ReadState.takeContent_noted, taken]
        · rwa [ReadState.stage_takeContent taken]

/-! ### Texts -/

theorem TextArrival.error_iff {text : String} (a : TextArrival text) {fault : Fault} :
    read text = .error ⟨a.number, fault⟩ ↔
      a.state.takeContent a.statement.text = .error fault := by
  rw [← Arrival.error_iff a]
  unfold read
  cases readLines 1 .start (Text.lines text.toList) with
  | ok final => exact iff_of_false nofun nofun
  | error e => simp [Except.map]

/-- An accepted text has no statement but those that are taken. -/
theorem exists_taken {text : String} {d : Document} {statement : Statement}
    (accepted : read text = .ok d) (listed : statement ∈ statements text) :
    ∃ s t : ReadState, s.stage = statement.stage ∧ s.takeContent statement.text = .ok t := by
  obtain ⟨final, accepted, -⟩ := reading_map_ok_iff.1 accepted
  obtain ⟨a, rfl⟩ := exists_arrival accepted listed
  obtain ⟨next, taken⟩ := a.taken accepted
  exact ⟨a.state, next, rfl, taken⟩

end LinProg.Lp
