import Mathlib
import LinProg.Proofs.Lp.Listing

/-!
# The bounds and domains that a text declares

A variable of a text is what the lines that mention it make of a fresh one, one after the other
(`eq_foldl_effect`).  A line of `Binaries` cuts bounds to the unit interval when it is read, and a later
bound line sets its sides all the same: so binary variables stay within the unit interval exactly if
the last bound lines after their last listing do (`binary_within_unit`).
-/

namespace LinProg.Lp
open Operation (reading_bind_ok_iff reading_map_ok_iff)
open ReadState (makeInteger makeBinary)

/-! ### What a line says about a variable -/

inductive Side where
  | lower
  | upper

def Declared.bound (v : Declared) : Side → Float
  | .lower => v.lower
  | .upper => v.upper

/-- What a bound line sets a side to, if it does. -/
def BoundLine.bound? (line : BoundLine) : Side → Option Float
  | .lower => line.lower
  | .upper => line.upper

namespace Statement

/-- What a line says about the bounds of a variable, if it is a bound line with its name. -/
def boundLine? (name : String) (line : Statement) : Option BoundLine :=
  if line.stage = .bounds then
    (BoundLine.read line.text).toOption.filter fun b => String.ofList b.name = name
  else none

def ListsBinary (name : String) (line : Statement) : Prop :=
  line.stage = .binaries ∧ name ∈ line.names

instance (name : String) (line : Statement) : Decidable (line.ListsBinary name) :=
  inferInstanceAs (Decidable (_ ∧ _))

/-- What a line makes of a variable. -/
def effect (name : String) (line : Statement) (v : Declared) : Declared :=
  match line.stage with
  | .preamble | .objective | .constraints => v
  | .bounds => (line.boundLine? name).elim v (·.apply v)
  | .generals => if name ∈ line.names then makeInteger v else v
  | .binaries => if name ∈ line.names then makeBinary v else v

end Statement

/-- The values to which bound lines set a side of a variable, in order. -/
def settings (side : Side) (name : String) (lines : List Statement) : List Float :=
  lines.filterMap fun line => (line.boundLine? name).bind (·.bound? side)

/-- The lines after the last one that lists a variable as binary; all lines if there is none. -/
def afterListing (name : String) (lines : List Statement) : List Statement :=
  lines.rtakeWhile fun line => ¬line.ListsBinary name

/-! ### Tables -/

namespace VariableTable

variable {t : VariableTable} {name other : String} {f : Declared → Declared}

theorem lookupD_enter : (t.enter other).lookupD name = t.lookupD name := by
  unfold lookupD
  rw [lookup_enter]
  split
  · rename_i same
    rw [same]
    rfl
  · rfl

theorem lookupD_enterTerms (terms : List (String × Float)) :
    (t.enterTerms terms).lookupD name = t.lookupD name := by
  unfold enterTerms
  induction terms generalizing t with
  | nil => rfl
  | cons term terms ih => rw [List.foldl_cons, ih, lookupD_enter]

theorem lookupD_update (keeps : ∀ v, (f v).name = v.name) :
    (t.update other f).lookupD name = if other = name then f (t.lookupD name) else t.lookupD name := by
  unfold lookupD
  rw [lookup_update keeps]
  by_cases same : other = name
  · rw [if_pos same.symm, if_pos same, same]
    rfl
  · rw [if_neg (Ne.symm same), if_neg same]

/-- A change that does nothing the second time is made once for a name, however often it is listed. -/
theorem lookupD_updates (keeps : ∀ v, (f v).name = v.name) (twice : ∀ v, f (f v) = f v)
    (words : List (List Char)) :
    (words.foldl (fun t w => t.update (String.ofList w) f) t).lookupD name =
      if name ∈ words.map String.ofList then f (t.lookupD name) else t.lookupD name := by
  induction words generalizing t with
  | nil => rfl
  | cons w words ih =>
    rw [List.foldl_cons, ih, lookupD_update keeps, List.map_cons]
    by_cases same : String.ofList w = name
    · rw [if_pos same, if_pos (List.mem_cons.2 (.inl same.symm)), twice, ite_self]
    · rw [if_neg same]
      simp only [List.mem_cons, Ne.symm same, false_or]

theorem Lists.eq_lookupD {mentioned bounded : List String} {v : Declared}
    (lists : t.Lists mentioned bounded) (declared : v ∈ t.ordered) : v = t.lookupD v.name := by
  have found : t.lookup v.name = some v := by
    rcases List.mem_append.1 declared with bound | unbound
    · obtain ⟨name, -, first⟩ := List.mem_filterMap.1 bound
      obtain rfl : v.name = name := by simpa using List.find?_some first
      exact first
    · -- names are listed once, so the variable is the one that is found under its name
      have member := List.mem_of_mem_filter unbound
      have distinct : (t.declared.map (·.name)).Nodup := lists.names ▸ nodup_eraseDups mentioned
      obtain ⟨before, after, shape⟩ := List.append_of_mem member
      unfold lookup
      rw [shape] at distinct ⊢
      rw [List.map_append, List.map_cons, List.nodup_append] at distinct
      have earlier : before.find? (·.name = v.name) = none := by
        rw [List.find?_eq_none]
        intro w listed same
        exact distinct.2.2 w.name (List.mem_map_of_mem listed) v.name List.mem_cons_self
          (of_decide_eq_true same)
      rw [List.find?_append, earlier, Option.none_or, List.find?_cons, decide_eq_true rfl]
  unfold lookupD
  rw [found]
  rfl

end VariableTable

/-! ### Texts -/

theorem makeInteger_makeInteger (v : Declared) : makeInteger (makeInteger v) = makeInteger v := by
  unfold makeInteger
  by_cases binary : v.domain = .binary
  · rw [if_pos binary, if_pos binary]
  · rw [if_neg binary]
    rfl

theorem makeBinary_makeBinary (v : Declared) : makeBinary (makeBinary v) = makeBinary v := by
  have zero : ¬(0 : Float) < 0 := by decide
  have one : ¬(1 : Float) < 1 := by decide
  unfold makeBinary
  by_cases low : 0 < v.lower <;> by_cases high : v.upper < 1 <;> simp [low, high, zero, one]

namespace ReadState

variable {s t : ReadState} {name : String} {text : List Char}

theorem lookupD_takeContent (h : s.takeContent text = .ok t) :
    t.table.lookupD name = Statement.effect name ⟨s.stage, text⟩ (s.table.lookupD name) := by
  unfold takeContent at h
  unfold Statement.effect
  cases stage : s.stage with
  | preamble =>
    rw [stage] at h
    cases h
  | objective =>
    rw [stage] at h
    obtain ⟨given, -, taken⟩ := reading_bind_ok_iff.1 h
    cases taken
    exact VariableTable.lookupD_enterTerms given.1
  | constraints =>
    rw [stage] at h
    obtain ⟨_, _, _, given, _, -, -, -, rfl⟩ := takeRow_cases h
    exact VariableTable.lookupD_enterTerms given.1
  | bounds =>
    rw [stage] at h
    obtain ⟨line, read, taken⟩ := reading_bind_ok_iff.1 h
    cases taken
    unfold Statement.boundLine?
    dsimp only
    rw [if_pos rfl, read]
    refine (VariableTable.lookupD_update (f := line.apply) fun _ => rfl).trans ?_
    by_cases same : String.ofList line.name = name
    · simp [Except.toOption, Option.filter, same]
    · simp [Except.toOption, Option.filter, same]
  | generals =>
    rw [stage] at h
    cases h
    exact VariableTable.lookupD_updates Problem.name_makeInteger makeInteger_makeInteger _
  | binaries =>
    rw [stage] at h
    cases h
    exact VariableTable.lookupD_updates Problem.name_makeBinary makeBinary_makeBinary _

theorem lookupD_readLines {lines : List (List Char)} {n : Nat} (h : Lp.readLines n s lines = .ok t) :
    t.table.lookupD name = (statementsFrom s.stage lines).foldl
      (fun v line => line.effect name v) (s.table.lookupD name) := by
  have start : s.table.lookupD name = ([] : List Statement).foldl
    (fun v line => line.effect name v) (s.table.lookupD name) := rfl
  refine readLines_invariant (P := fun done u => u.table.lookupD name = done.foldl
    (fun v line => line.effect name v) (s.table.lookupD name)) ?_ ?_ ?_ start h
  · intro done u comment same
    cases comment with
    | none => exact same
    | some comment =>
      unfold noted takeComment
      dsimp only
      split <;> exact same
  · exact fun _ _ _ _ same => same
  · intro done u text t same taken
    rw [lookupD_takeContent taken, same, List.foldl_append]
    rfl

end ReadState

/-- A variable is what the lines make of a fresh one. -/
theorem eq_foldl_effect {text : String} {d : Document} {v : Declared} (accepted : read text = .ok d)
    (declared : v ∈ d.declared) :
    v = (statements text).foldl (fun w line => line.effect v.name w) (VariableTable.fresh v.name) := by
  obtain ⟨s, reading, rfl⟩ := reading_map_ok_iff.1 accepted
  obtain ⟨lists, -, -⟩ := ReadState.Accounts.start.readLines reading
  exact (lists.eq_lookupD declared).trans (ReadState.lookupD_readLines reading)

/-! ### Bounds and domains after some lines -/

section Lines

variable {name : String} {line : Statement} {lines : List Statement} {v : Declared}

theorem BoundLine.bound_apply (line : BoundLine) (v : Declared) (side : Side) :
    (line.apply v).bound side = (line.bound? side).getD (v.bound side) := by
  cases side <;> rfl

theorem Statement.bound_effect (other : ¬line.ListsBinary name) (v : Declared) (side : Side) :
    (line.effect name v).bound side =
      ((line.boundLine? name).bind (·.bound? side)).getD (v.bound side) := by
  have silent (stage : line.stage ≠ .bounds) : line.boundLine? name = none := if_neg stage
  unfold Statement.effect
  cases stage : line.stage with
  | bounds =>
    cases line.boundLine? name with
    | none => rfl
    | some b => exact b.bound_apply v side
  | binaries =>
    rw [silent (by simp [stage])]
    exact congrArg (Declared.bound · side) (if_neg fun listed => other ⟨stage, listed⟩)
  | generals =>
    rw [silent (by simp [stage])]
    dsimp only
    unfold makeInteger
    split
    · split <;> cases side <;> rfl
    · rfl
  | preamble | objective | constraints =>
    rw [silent (by simp [stage])]
    rfl

theorem settings_cons (side : Side) :
    settings side name (line :: lines) =
      ((line.boundLine? name).bind (·.bound? side)).toList ++ settings side name lines := by
  unfold settings
  rw [List.filterMap_cons]
  cases (line.boundLine? name).bind (·.bound? side) <;> rfl

/-- Each side of a variable is as the last bound line that sets it leaves it. -/
theorem bound_of_lines (others : ∀ line ∈ lines, ¬line.ListsBinary name) (v : Declared)
    (side : Side) : (lines.foldl (fun v line => line.effect name v) v).bound side =
      (settings side name lines).getLast?.getD (v.bound side) := by
  induction lines generalizing v with
  | nil => rfl
  | cons line lines ih =>
    obtain ⟨other, others⟩ := List.forall_mem_cons.1 others
    rw [List.foldl_cons, ih others, Statement.bound_effect other, settings_cons, List.getLast?_append]
    cases (settings side name lines).getLast? <;>
      cases (line.boundLine? name).bind (·.bound? side) <;> rfl

theorem domain_effect :
    (line.effect name v).domain = .binary ↔ v.domain = .binary ∨ line.ListsBinary name := by
  unfold Statement.effect Statement.ListsBinary
  cases line.stage with
  | bounds => cases line.boundLine? name <;> simp [BoundLine.apply]
  | generals =>
    dsimp only
    unfold makeInteger
    split
    · split <;> simp_all
    · simp
  | binaries =>
    dsimp only
    split <;> simp_all [makeBinary]
  | preamble | objective | constraints => simp

theorem domain_of_lines :
    (lines.foldl (fun v line => line.effect name v) v).domain = .binary ↔
      v.domain = .binary ∨ ∃ line ∈ lines, line.ListsBinary name := by
  induction lines generalizing v with
  | nil => simp
  | cons line lines ih =>
    rw [List.foldl_cons, ih, domain_effect, List.exists_mem_cons_iff, or_assoc]

theorem makeBinary_within (v : Declared) : 0 ≤ (makeBinary v).lower ∧ (makeBinary v).upper ≤ 1 := by
  unfold makeBinary
  constructor
  · dsimp only
    split
    · rename_i above
      exact Number.le_iff.2 (.inl above)
    · decide
  · dsimp only
    split
    · rename_i below
      exact Number.le_iff.2 (.inl below)
    · decide

/-- After its last listing, a variable is within the unit interval until a bound line says otherwise. -/
theorem bound_of_listsBinary (listed : ∃ line ∈ lines, line.ListsBinary name) (v : Declared) :
    ∃ w : Declared, 0 ≤ w.lower ∧ w.upper ≤ 1 ∧
      ∀ side, (lines.foldl (fun v line => line.effect name v) v).bound side =
        (settings side name (afterListing name lines)).getLast?.getD (w.bound side) := by
  let unlisted (line : Statement) : Bool := ¬line.ListsBinary name
  have later : ∀ line ∈ lines.rtakeWhile unlisted, ¬line.ListsBinary name :=
    fun line member => of_decide_eq_true (List.mem_rtakeWhile_imp (p := unlisted) member)
  let front := lines.rdropWhile unlisted
  have some : front ≠ [] := by
    intro empty
    obtain ⟨line, member, lists⟩ := listed
    exact of_decide_eq_true (List.rdropWhile_eq_nil_iff.1 empty line member) lists
  have last : (front.getLast some).ListsBinary name := Decidable.not_not.1 fun other =>
    List.rdropWhile_last_not unlisted lines some (decide_eq_true other)
  -- the last listing cuts whatever the lines before it have made of the variable
  let w := front.dropLast.foldl (fun v line => line.effect name v) v
  have cut : (front.getLast some).effect name w = makeBinary w := by
    unfold Statement.effect
    rw [last.1]
    exact if_pos last.2
  have parts : front.dropLast ++ [front.getLast some] ++ lines.rtakeWhile unlisted = lines := by
    rw [List.dropLast_append_getLast some]
    exact List.rdropWhile_append_rtakeWhile ..
  have whole : lines.foldl (fun v line => line.effect name v) v =
      (lines.rtakeWhile unlisted).foldl (fun v line => line.effect name v) (makeBinary w) := by
    rw [← cut]
    conv_lhs => rw [← parts, List.foldl_append, List.foldl_append]
    rfl
  obtain ⟨low, high⟩ := makeBinary_within w
  refine ⟨makeBinary w, low, high, fun side => ?_⟩
  rw [whole, bound_of_lines later]
  rfl

end Lines

/-- In an accepted text the binary variables are those that its `Binaries` sections list, wherever these
stand.  A bound of such a variable is within the unit interval, and a number, unless the last bound line
that sets it after the last listing sets it otherwise. -/
theorem binary_within_unit (text : String) (d : Document) (accepted : read text = .ok d) :
    ∀ v ∈ d.declared,
      (v.domain = .binary ↔ ∃ line ∈ statements text, line.ListsBinary v.name) ∧
      (v.domain = .binary →
        let later := afterListing v.name (statements text)
        (0 ≤ v.lower ↔ ∀ x ∈ (settings .lower v.name later).getLast?, 0 ≤ x) ∧
        (v.upper ≤ 1 ↔ ∀ x ∈ (settings .upper v.name later).getLast?, x ≤ 1)) := by
  intro v declared
  have shape := eq_foldl_effect accepted declared
  have domain : v.domain = .binary ↔ ∃ line ∈ statements text, line.ListsBinary v.name := by
    rw [congrArg Declared.domain shape, domain_of_lines]
    simp [VariableTable.fresh]
  refine ⟨domain, fun binary => ?_⟩
  obtain ⟨w, low, high, sides⟩ :=
    bound_of_listsBinary (domain.1 binary) (VariableTable.fresh v.name)
  rw [← shape] at sides
  intro later
  constructor
  · have lower : v.lower = (settings .lower v.name later).getLast?.getD w.lower := sides .lower
    rw [lower]
    cases (settings .lower v.name later).getLast? <;> simp [low]
  · have upper : v.upper = (settings .upper v.name later).getLast?.getD w.upper := sides .upper
    rw [upper]
    cases (settings .upper v.name later).getLast? <;> simp [high]

def reboundText : String := "Minimize\n x\nBounds\n 2 <= x\nBinaries\n x\nBounds\n x <= 5\nEnd\n"

theorem binary_within_unit_reboundText :
    ∃ d, read reboundText = .ok d ∧ ∃ v ∈ d.declared, v.domain = .binary ∧ 0 ≤ v.lower ∧ ¬v.upper ≤ 1 := by
  let v : Declared := ⟨"x", 2, 5, .binary⟩
  have accepted : read reboundText = .ok ⟨"", .minimize, [("x", 1)], [], [v]⟩ := by decide +kernel
  have declared : v ∈ [v] := List.mem_singleton_self v
  obtain ⟨-, within⟩ := binary_within_unit reboundText _ accepted v declared
  obtain ⟨low, high⟩ := within rfl
  refine ⟨_, accepted, v, declared, rfl, low.2 ?_, mt high.1 ?_⟩
  · decide +kernel
  · decide +kernel

end LinProg.Lp
