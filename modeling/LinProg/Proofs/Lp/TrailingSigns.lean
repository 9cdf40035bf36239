import Mathlib
import LinProg.Proofs.Lp.Arrival
import LinProg.Proofs.Lp.Signs

/-!
# Signs at the end of an expression

Only the sign that is in force at the end is checked, so signs at the end of an expression are refused if
the number of minuses among them is odd, and are ignored otherwise (`readTerms_trailingSigns`).
-/

namespace LinProg.Lp
open Number (isSign isNumber)
open Operation (reading_bind_ok_iff)

def isSigns (w : List Char) : Bool := w.all isSign

/-- The last words of an expression, as far as they are nothing but signs. -/
def trailingSigns (expression : List Char) : List Char :=
  ((Text.words expression).rtakeWhile isSigns).flatten

/-- An expression up to the last word that is more than signs. -/
def beforeSigns (expression : List Char) : List Char :=
  Text.spaced ((Text.words expression).rdropWhile isSigns)

/-- The expression that a line has on its left, or alone. -/
def Statement.expression? (s : Statement) : Option (List Char) :=
  match s.stage with
  | .objective => some (ReadState.splitLabel s.text).2
  | .constraints =>
    match splitRelations (ReadState.splitLabel s.text).2 with
    | ⟨left, [_]⟩ => some left
    | _ => none
  | _ => none

namespace TermState

variable {s t : TermState} {cs w : List Char} {ws : List (List Char)} {fault : Fault}

theorem takeWord_signs (all : ∀ c ∈ w, isSign c = true) (s : TermState) :
    s.takeWord w = .ok (w.foldl takeSign s) := by
  have taken : takeSigns w s = ([], w.foldl takeSign s) := by
    induction w generalizing s with
    | nil => rfl
    | cons c cs ih =>
      obtain ⟨sign, others⟩ := List.forall_mem_cons.1 all
      have bare : ¬isNumber cs = true := by
        intro number
        exact (Number.isNumber_unsigned number).1 (List.dropWhile_eq_nil_iff.2 others)
      rw [takeSigns_cons sign, if_neg bare, ih others, List.foldl_cons]
  unfold takeWord
  rw [taken]
  rfl

theorem takeWords_signs (all : ∀ w ∈ ws, isSigns w = true) (s : TermState) :
    ws.foldlM takeWord s = .ok (ws.flatten.foldl takeSign s) := by
  induction ws generalizing s with
  | nil => rfl
  | cons w ws ih =>
    obtain ⟨first, others⟩ := List.forall_mem_cons.1 all
    rw [List.foldlM_cons, takeWord_signs (List.all_eq_true.1 first), List.flatten_cons,
      List.foldl_append]
    exact ih others _

/-- An operand uses up the sign in front of it: a name at once, a number as soon as it is closed. -/
theorem sign_takeOperand (operand : w ≠ []) (h : s.takeOperand w = .ok t) : t.closed.sign = 1 := by
  rcases takeOperand_cases h with ⟨none, -⟩ | ⟨-, value, rfl⟩ | ⟨-, -, -, rfl⟩
  · exact absurd none operand
  · rfl
  · rfl

theorem sign_takeWord (more : isSigns w = false) (h : s.takeWord w = .ok t) :
    t.closed.sign = 1 := by
  obtain ⟨rest, next, taken, -, shape⟩ := takeWord_cases h
  refine sign_takeOperand ?_ taken
  rintro rfl
  rcases shape with none | ⟨number, -⟩
  · have all : ∀ c ∈ w, isSign c = true := List.dropWhile_eq_nil_iff.1 none.symm
    rw [isSigns, List.all_eq_true.2 all] at more
    cases more
  · cases number

theorem sign_takeWords (last : ∀ w ∈ ws.getLast?, isSigns w = false)
    (h : ws.foldlM takeWord start = .ok s) : s.closed.sign = 1 := by
  rcases List.eq_nil_or_concat' ws with rfl | ⟨front, w, rfl⟩
  · cases h
    rfl
  · rw [List.foldlM_append] at h
    obtain ⟨middle, -, h⟩ := reading_bind_ok_iff.1 h
    rw [List.foldlM_cons] at h
    obtain ⟨final, taken, h⟩ := reading_bind_ok_iff.1 h
    cases h
    exact sign_takeWord (last w List.getLast?_concat) taken

theorem takeWord_error (h : s.takeWord w = .error fault) : fault ≠ .danglingSign := by
  rintro rfl
  unfold takeWord takeOperand at h
  dsimp only at h
  split at h
  · cases h
  · split at h <;> cases h
  · split at h <;> cases h

theorem takeWords_error (h : ws.foldlM takeWord s = .error fault) : fault ≠ .danglingSign := by
  induction ws generalizing s with
  | nil => cases h
  | cons w ws ih =>
    rw [List.foldlM_cons] at h
    cases taken : s.takeWord w with
    | ok next =>
      rw [taken] at h
      exact ih h
    | error other =>
      rw [taken] at h
      cases h
      exact takeWord_error taken

theorem finish_signs (signless : s.closed.sign = 1) (cs : List Char) :
    (cs.foldl takeSign s).finish = if Odd (cs.count '-') then .error .danglingSign
      else .ok (s.closed.terms, s.closed.constant) := by
  by_cases none : cs = []
  · subst none
    exact finish_signless signless
  · rw [foldl_takeSign_closed cs none, signless]
    have waiting := s.pending_closed
    generalize s.closed = t at waiting
    obtain ⟨terms, constant, g, pending⟩ := t
    cases waiting
    have reversed : ((-1 : Float) != 1) = true := by decide +kernel
    unfold signed
    split
    · simp [finish, reversed]
    · exact finish_closed

/-- What words make of the signs after them, be they accepted or not. -/
theorem readWords_cases {front back : List (List Char)}
    (last : ∀ w ∈ front.getLast?, isSigns w = false) (signs : ∀ w ∈ back, isSigns w = true) :
    (∃ fault, fault ≠ .danglingSign ∧ (front.foldlM takeWord start >>= finish) = .error fault ∧
        ((front ++ back).foldlM takeWord start >>= finish) = .error fault) ∨
      ∃ given, (front.foldlM takeWord start >>= finish) = .ok given ∧
        ((front ++ back).foldlM takeWord start >>= finish) =
          if Odd (back.flatten.count '-') then .error .danglingSign else .ok given := by
  rw [List.foldlM_append]
  cases taken : front.foldlM takeWord start with
  | error fault => exact .inl ⟨fault, takeWords_error taken, rfl, rfl⟩
  | ok s =>
    have signless := sign_takeWords last taken
    refine .inr ⟨_, finish_signless signless, ?_⟩
    show (back.foldlM takeWord s >>= finish) = _
    rw [takeWords_signs signs]
    exact finish_signs signless back.flatten

end TermState

/-! ### Expressions -/

theorem readTerms_cases (expression : List Char) :
    (∃ fault, fault ≠ .danglingSign ∧ readTerms (beforeSigns expression) = .error fault ∧
        readTerms expression = .error fault) ∨
      ∃ given, readTerms (beforeSigns expression) = .ok given ∧
        readTerms expression = if Odd ((trailingSigns expression).count '-')
          then .error .danglingSign else .ok given := by
  have all := (Text.spread_words expression).2
  unfold readTerms beforeSigns trailingSigns
  generalize Text.words expression = words at all
  have last : ∀ w ∈ (words.rdropWhile isSigns).getLast?, isSigns w = false := by
    intro w member
    obtain ⟨some, rfl⟩ := List.mem_getLast?_eq_getLast member
    exact Bool.eq_false_iff.2 (List.rdropWhile_last_not _ words some)
  have signs : ∀ w ∈ words.rtakeWhile isSigns, isSigns w = true :=
    fun w member => List.mem_rtakeWhile_imp member
  have cases := TermState.readWords_cases last signs
  rwa [List.rdropWhile_append_rtakeWhile, ← Text.words_spaced fun w member =>
    all w ((List.rdropWhile_prefix _ words).subset member)] at cases

theorem readTerms_dangling_iff (expression : List Char) :
    readTerms expression = .error .danglingSign ↔
      (∃ given, readTerms (beforeSigns expression) = .ok given) ∧
        Odd ((trailingSigns expression).count '-') := by
  rcases readTerms_cases expression with ⟨fault, other, read, front⟩ | ⟨given, front, read⟩
  · rw [read, front]
    simpa using other
  · rw [read, front]
    split <;> simp_all

/-! ### Lines -/

/-- In a line, only its expression can have a dangling sign. -/
theorem takeContent_dangling_iff {s : ReadState} {text expression : List Char}
    (h : Statement.expression? ⟨s.stage, text⟩ = some expression) :
    s.takeContent text = .error .danglingSign ↔ readTerms expression = .error .danglingSign := by
  unfold ReadState.takeContent
  unfold Statement.expression? at h
  cases stage : s.stage with
  | objective =>
    rw [stage] at h
    cases h
    unfold ReadState.takeObjective
    cases readTerms (ReadState.splitLabel text).2 with
    | ok given => exact iff_of_false nofun nofun
    | error fault => simp [bind, Except.bind]
  | constraints =>
    rw [stage] at h
    dsimp only at h ⊢
    unfold ReadState.takeRow
    dsimp only
    split at h
    · rename_i left relation cut
      cases h
      rw [cut]
      dsimp only
      cases readTerms expression with
      | error fault => simp [bind, Except.bind]
      | ok given =>
        refine iff_of_false ?_ nofun
        cases readLimit relation.2 <;>
          simp [bind, Except.bind, pure, Except.pure, throw, throwThe, MonadExceptOf.throw]
    · cases h
  | preamble | bounds | generals | binaries =>
    rw [stage] at h
    cases h

/-- Trailing signs are refused if an odd number of them are minuses, and ignored otherwise; so in every
line with the expression. -/
theorem trailing_signs (expression : List Char) :
    (readTerms expression = do
      let given ← readTerms (beforeSigns expression)
      if Odd ((trailingSigns expression).count '-') then throw .danglingSign else return given) ∧
    ∀ (text : String) (a : TextArrival text), a.statement.expression? = some expression →
      (read text = .error ⟨a.number, .danglingSign⟩ ↔
        (∃ given, readTerms (beforeSigns expression) = .ok given) ∧
          Odd ((trailingSigns expression).count '-')) := by
  constructor
  · rcases readTerms_cases expression with ⟨fault, -, front, read⟩ | ⟨given, front, read⟩
    · rw [front, read]
      rfl
    · rw [front, read]
      rfl
  · intro text a left
    exact a.error_iff.trans
      ((takeContent_dangling_iff left).trans (readTerms_dangling_iff expression))

/-- Two minuses after the objective are ignored, one after a row is refused. -/
def danglingText : String := "Minimize\n x - -\nSubject To\n c: x + - >= 1\nEnd\n"

def danglingRow : TextArrival danglingText where
  before := ["Minimize".toList, " x - -".toList, "Subject To".toList]
  line := " c: x + - >= 1".toList
  after := ["End".toList]
  state := ⟨.constraints, "", .minimize, [("x", 1)], [],
    ⟨[⟨"x", 0, Number.infinity, .continuous⟩], []⟩⟩
  split := by decide +kernel
  ongoing := by decide +kernel
  accepted := by rfl
  nonempty := by decide +kernel
  notEnd := by decide +kernel
  notKeyword := by decide +kernel

theorem trailing_signs_two_lines :
    readTerms " x - -".toList = .ok ([("x", 1)], 0) ∧
      read danglingText = .error ⟨4, .danglingSign⟩ := by
  have left : danglingRow.statement.expression? = some "x + -".toList := by decide +kernel
  have given : readTerms (beforeSigns "x + -".toList) = .ok ([("x", 1)], 0) := by decide +kernel
  constructor
  · rw [(trailing_signs _).1]
    decide +kernel
  · exact ((trailing_signs _).2 danglingText danglingRow left).2 ⟨⟨_, given⟩, by decide +kernel⟩

end LinProg.Lp
