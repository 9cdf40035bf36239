import Mathlib
import LinProg.Lp.Reader
import LinProg.Proofs.Number.Shape
import LinProg.Proofs.Operation
import LinProg.Proofs.Text.Layout

/-!
# The names in a text

`statements` are the lines of a text that say something, each with its section, and `names` are the
names in such a line: told by the places where names stand, not by how a line is read.  What is read of
an expression or of a bound line has just these names (`readTerms_names`, `BoundLine.read_name`).
-/

namespace LinProg.Lp
open Number (isSign unsigned isNumber)
open Operation (reading_bind_ok_iff)

/-- A line that belongs to a section. -/
structure Statement where
  stage : Section
  text : List Char

/-- The lines that are neither empty nor keywords, up to the end line. -/
def statementsFrom (stage : Section) : List (List Char) → List Statement
  | [] => []
  | raw :: more =>
    let content := (splitComment raw).1
    if content = [] then statementsFrom stage more
    else if isWord "end" content then []
    else match sectionKeyword content with
      | some (opened, _) => statementsFrom opened more
      | none => ⟨stage, content⟩ :: statementsFrom stage more

def statements (text : String) : List Statement :=
  statementsFrom .preamble (Text.lines text.toList)

/-- The name in a word of an expression: what follows its signs, unless that is a number. -/
def nameIn? (word : List Char) : Option String :=
  if unsigned word = [] ∨ isNumber (unsigned word) then none
  else some (String.ofList (unsigned word))

def namesIn (expression : List Char) : List String := (Text.words expression).filterMap nameIn?

def Cut.operands (k : Cut) : List (List Char) := k.first :: k.rest.map (·.2)

/-- The operand that is compared with numbers: the one between two relations, or the side of one
relation that is no number. -/
def Cut.compared : Cut → List Char
  | ⟨_, [(_, middle), _]⟩ => middle
  | ⟨left, [(_, right)]⟩ => if isNumber (Text.trim left) then right else left
  | ⟨first, _⟩ => first

/-- A bound line of the form that has no relation. -/
def isFreeLine (text : List Char) : Bool :=
  match Text.words text with
  | [_, word] => isWord "free" word
  | _ => false

/-- What stands for the variable in a bound line. -/
def boundName (text : List Char) : List Char :=
  match Text.words text with
  | [name, word] => if isWord "free" word then name else (splitRelations text).compared
  | _ => (splitRelations text).compared

/-- The names in a line.  A label is no name. -/
def Statement.names (s : Statement) : List String :=
  match s.stage with
  | .preamble => []
  | .objective => namesIn (ReadState.splitLabel s.text).2
  | .constraints => (splitRelations (ReadState.splitLabel s.text).2).operands.flatMap namesIn
  | .bounds => [String.ofList (boundName s.text)]
  | .generals | .binaries => (Text.words s.text).map String.ofList

/-! ### Expressions -/

namespace TermState

variable {s t : TermState} {word rest : List Char}

theorem terms_applySign (s : TermState) (negative : Bool) :
    (s.applySign negative).terms = s.terms := by
  unfold applySign
  cases s.pending <;> cases negative <;> rfl

/-- Taking signs off leaves what follows them, or a number, which then follows them too. -/
theorem takeSigns_spec (taken : takeSigns word s = (rest, t)) :
    t.terms = s.terms ∧
      (rest = unsigned word ∨ isNumber rest = true ∧ isNumber (unsigned word) = true) := by
  induction word generalizing s with
  | nil =>
    cases taken
    exact ⟨rfl, .inl rfl⟩
  | cons c cs ih =>
    rw [takeSigns] at taken
    split at taken
    · rename_i sign
      have step : unsigned (c :: cs) = unsigned cs :=
        List.dropWhile_cons_of_pos (by simpa [isSign] using sign)
      rw [step]
      dsimp only at taken
      split at taken
      · rename_i number
        cases taken
        exact ⟨terms_applySign s _, .inr ⟨number, (Number.isNumber_unsigned number).2⟩⟩
      · obtain ⟨terms, shape⟩ := ih taken
        exact ⟨terms.trans (terms_applySign s _), shape⟩
    · rename_i plain
      cases taken
      exact ⟨rfl, .inl (List.dropWhile_cons_of_neg (by simpa [isSign] using plain)).symm⟩

/-- What an operand that is accepted does: nothing, or it is a number that waits, or a name. -/
theorem takeOperand_cases (h : s.takeOperand rest = .ok t) :
    (rest = [] ∧ t = s) ∨
      (isNumber rest = true ∧ ∃ value, t = { s with pending := some value }) ∨
      (rest ≠ [] ∧ isNumber rest = false ∧ isValidName rest = true ∧
        t = ⟨s.terms ++ [(String.ofList rest, s.sign * s.pending.getD 1)], s.constant, 1, none⟩) := by
  cases rest with
  | nil =>
    cases h
    exact .inl ⟨rfl, rfl⟩
  | cons c cs =>
    refine .inr ?_
    unfold isNumber
    cases read : Number.read (c :: cs) with
    | ok value =>
      simp only [takeOperand, read] at h
      split at h
      · cases h
      · cases h
        exact .inl ⟨rfl, value, rfl⟩
    | error cause =>
      simp only [takeOperand, read] at h
      split at h
      · rename_i valid
        cases h
        exact .inr ⟨List.cons_ne_nil c cs, rfl, valid, rfl⟩
      · cases h

theorem takeOperand_names (h : s.takeOperand rest = .ok t) :
    t.terms.map (·.1) = s.terms.map (·.1) ++
      (if rest = [] ∨ isNumber rest then none else some (String.ofList rest)).toList := by
  rcases takeOperand_cases h with ⟨rfl, rfl⟩ | ⟨number, value, rfl⟩ | ⟨some, other, -, rfl⟩
  · simp
  · simp [number]
  · simp [some, other]

theorem takeWord_cases (h : s.takeWord word = .ok t) :
    ∃ (rest : List Char) (next : TermState), next.takeOperand rest = .ok t ∧ next.terms = s.terms ∧
      (rest = unsigned word ∨ isNumber rest = true ∧ isNumber (unsigned word) = true) := by
  unfold takeWord at h
  cases taken : takeSigns word s with
  | mk rest next =>
    rw [taken] at h
    exact ⟨rest, next, h, takeSigns_spec taken⟩

theorem takeWord_names (h : s.takeWord word = .ok t) :
    t.terms.map (·.1) = s.terms.map (·.1) ++ (nameIn? word).toList := by
  obtain ⟨rest, next, taken, terms, shape⟩ := takeWord_cases h
  have names := takeOperand_names taken
  rw [terms] at names
  unfold nameIn?
  rcases shape with rfl | ⟨number, number'⟩
  · exact names
  · rw [if_pos (.inr number)] at names
    rw [if_pos (.inr number')]
    exact names

theorem takeWords_names {words : List (List Char)} (h : words.foldlM takeWord s = .ok t) :
    t.terms.map (·.1) = s.terms.map (·.1) ++ words.filterMap nameIn? := by
  induction words generalizing s with
  | nil =>
    cases h
    simp
  | cons word words ih =>
    rw [List.foldlM_cons] at h
    obtain ⟨next, step, rest⟩ := reading_bind_ok_iff.1 h
    rw [ih rest, takeWord_names step, List.append_assoc, List.filterMap_cons]
    cases nameIn? word <;> rfl

theorem finish_terms {terms : List (String × Float)} {constant : Float}
    (h : s.finish = .ok (terms, constant)) : terms = s.terms := by
  unfold finish at h
  split at h
  · cases h
    rfl
  · split at h
    · cases h
    · cases h
      rfl

end TermState

/-- Reading an expression drops no name and makes none up. -/
theorem readTerms_names {expression : List Char} {terms : List (String × Float)} {constant : Float}
    (h : readTerms expression = .ok (terms, constant)) : terms.map (·.1) = namesIn expression := by
  obtain ⟨state, taken, finish⟩ := reading_bind_ok_iff.1 h
  rw [TermState.finish_terms finish]
  exact TermState.takeWords_names taken

/-! ### Limits -/

theorem isNumber_of_readLimit {text : List Char} :
    (readLimit text).isSome = isNumber (Text.trim text) := by
  unfold readLimit isNumber
  cases Number.read (Text.trim text) with
  | error cause => rfl
  | ok value =>
    dsimp only
    split
    · rfl
    · split <;> rfl

theorem namesIn_of_readLimit {text : List Char} (number : (readLimit text).isSome = true) :
    namesIn text = [] := by
  rw [isNumber_of_readLimit] at number
  have word : Text.IsWordText (Text.trim text) := by
    refine ⟨?_, Number.isBlank_of_isNumber number⟩
    rintro empty
    rw [empty] at number
    cases number
  unfold namesIn nameIn?
  rw [← Text.words_trim, Text.words_of_word word, List.filterMap_cons,
    if_pos (.inr (Number.isNumber_unsigned number).2)]
  rfl

/-! ### Rows and bound lines -/

theorem ReadState.takeRow_cases {s t : ReadState} {text : List Char} (h : s.takeRow text = .ok t) :
    ∃ left relation right given rhs, splitRelations (splitLabel text).2 = ⟨left, [(relation, right)]⟩ ∧
      readTerms left = .ok given ∧ readLimit right = some rhs ∧
      t = { s with
        rows := s.rows ++ [⟨((splitLabel text).1.map String.ofList).getD s.rowName, given.1, relation,
          rhs - given.2⟩]
        table := s.table.enterTerms given.1 } := by
  unfold ReadState.takeRow at h
  dsimp only at h
  split at h
  · rename_i left relation right cut
    obtain ⟨given, read, taken⟩ := reading_bind_ok_iff.1 h
    cases limit : readLimit right with
    | none =>
      rw [limit] at taken
      cases taken
    | some rhs =>
      rw [limit] at taken
      cases taken
      refine ⟨left, relation, right, given, rhs, cut, read, limit, ?_⟩
      cases (splitLabel text).1 <;> rfl
  · cases h

theorem Statement.names_row {text left right : List Char} {relation : Relation} {rhs : Float}
    (cut : splitRelations (ReadState.splitLabel text).2 = ⟨left, [(relation, right)]⟩)
    (limit : readLimit right = some rhs) : Statement.names ⟨.constraints, text⟩ = namesIn left := by
  have none : namesIn right = [] := namesIn_of_readLimit (by rw [limit]; rfl)
  show (splitRelations (ReadState.splitLabel text).2).operands.flatMap namesIn = _
  rw [cut]
  simp [Cut.operands, none]

namespace BoundLine

variable {line : BoundLine}

theorem ofRelation_name (name : List Char) (value : Float) (r : Relation) :
    (ofRelation name value r).name = name := by
  cases r <;> rfl

theorem ofCut?_name {k : Cut} (h : ofCut? k = some line) : line.name = k.compared := by
  unfold ofCut? at h
  split at h
  · obtain ⟨lower, -, h⟩ := Option.bind_eq_some_iff.1 h
    obtain ⟨upper, -, h⟩ := Option.bind_eq_some_iff.1 h
    cases h
    rfl
  · obtain ⟨lower, -, h⟩ := Option.bind_eq_some_iff.1 h
    obtain ⟨upper, -, h⟩ := Option.bind_eq_some_iff.1 h
    cases h
    rfl
  · rename_i left r right
    unfold Cut.compared
    dsimp only
    rw [← isNumber_of_readLimit]
    cases limit : readLimit left with
    | some value =>
      rw [limit] at h
      cases h
      exact ofRelation_name right value r.reverse
    | none =>
      rw [limit] at h
      obtain ⟨value, -, rfl⟩ := Option.map_eq_some_iff.1 h
      exact ofRelation_name left value r
  · cases h

/-- A bound line is free, or has relations and a valid name. -/
theorem read_cases {text : List Char} (h : BoundLine.read text = .ok line) :
    (isFreeLine text = true ∧ line.name = boundName text) ∨
      (isFreeLine text = false ∧ ofCut? (splitRelations text) = some line ∧
        isValidName line.name = true) := by
  unfold BoundLine.read at h
  unfold isFreeLine boundName
  dsimp only at h
  generalize Text.words text = words at h ⊢
  cases cut : ofCut? (splitRelations text) with
  | none =>
    rw [cut] at h
    rcases words with _ | ⟨name, _ | ⟨word, _ | ⟨third, more⟩⟩⟩
    · cases h
    · cases h
    · dsimp only at h ⊢
      split at h
      · rename_i free
        cases h
        exact .inl ⟨free, (if_pos free).symm⟩
      · cases h
    · cases h
  | some found =>
    rw [cut] at h
    have related (h : (if isValidName found.name = true then .ok found
        else .error (.invalidBound (String.ofList text)) : Except Fault BoundLine) = .ok line) :
        some found = some line ∧ isValidName line.name = true := by
      split at h
      · rename_i valid
        cases h
        exact ⟨rfl, valid⟩
      · cases h
    rcases words with _ | ⟨name, _ | ⟨word, _ | ⟨third, more⟩⟩⟩
    · exact .inr ⟨rfl, related h⟩
    · exact .inr ⟨rfl, related h⟩
    · dsimp only at h ⊢
      split at h
      · rename_i free
        cases h
        exact .inl ⟨free, (if_pos free).symm⟩
      · rename_i other
        exact .inr ⟨Bool.eq_false_iff.2 other, related h⟩
    · exact .inr ⟨rfl, related h⟩

theorem read_of_related {text : List Char} (related : isFreeLine text = false)
    (cuts : ofCut? (splitRelations text) = some line) (valid : isValidName line.name = true) :
    BoundLine.read text = .ok line := by
  unfold isFreeLine at related
  unfold BoundLine.read
  rw [cuts]
  dsimp only
  rw [if_pos valid]
  split
  · rename_i words
    rw [words] at related
    rw [if_neg (Bool.eq_false_iff.1 related)]
  · rfl

theorem boundName_of_related {text : List Char} (related : isFreeLine text = false) :
    boundName text = (splitRelations text).compared := by
  unfold isFreeLine at related
  unfold boundName
  split
  · rename_i name word words
    rw [words] at related
    exact if_neg (Bool.eq_false_iff.1 related)
  · rfl

theorem read_name {text : List Char} (h : BoundLine.read text = .ok line) :
    line.name = boundName text := by
  rcases read_cases h with ⟨-, name⟩ | ⟨related, cut, -⟩
  · exact name
  · rw [boundName_of_related related, ofCut?_name cut]

end BoundLine

end LinProg.Lp
