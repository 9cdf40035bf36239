import Mathlib
import LinProg.Proofs.Lp.Mentions
import LinProg.Proofs.Lp.ReadBack
import LinProg.Proofs.Lp.Table

/-!
# What a text lists

Every name that a text mentions is declared, once, and no other one (`read_accounts`): first the names
with bound lines, in the order of those lines, then the others in the order of first use.  The invariant
behind this is what a table has after some names, `Lists`, and a state after some lines, `Accounts`.
-/

namespace LinProg.Lp
open Operation (reading_bind_ok_iff reading_map_ok_iff)

/-! ### First uses -/

theorem eraseDups_concat (names : List String) (name : String) :
    (names ++ [name]).eraseDups =
      if name ∈ names then names.eraseDups else names.eraseDups ++ [name] := by
  rw [List.eraseDups_append]
  split
  · rename_i listed
    have none : [name].removeAll names = [] := by
      simp [List.removeAll, listed]
    rw [none]
    exact List.append_nil _
  · rename_i absent
    have one : [name].removeAll names = [name] := by
      simp [List.removeAll, absent]
    rw [one]
    rfl

theorem nodup_eraseDups (names : List String) : names.eraseDups.Nodup := by
  induction names using List.reverseRecOn with
  | nil => exact List.nodup_nil
  | append_singleton names name ih =>
    rw [eraseDups_concat]
    split
    · exact ih
    · rename_i absent
      refine List.nodup_append.2 ⟨ih, List.nodup_singleton name, ?_⟩
      rintro other listed _ last rfl
      rw [List.mem_singleton.1 last] at listed
      exact absent (List.mem_eraseDups.1 listed)

/-! ### Tables -/

namespace VariableTable

/-- A table after some names, of which some had bound lines. -/
structure Lists (t : VariableTable) (mentioned bounded : List String) : Prop where
  names : t.declared.map (·.name) = mentioned.eraseDups
  bounds : t.bounded = bounded
  within : bounded ⊆ mentioned

namespace Lists

variable {t : VariableTable} {mentioned bounded : List String} {name : String}
  {f : Declared → Declared}

theorem empty : Lists .empty [] [] := ⟨rfl, rfl, List.nil_subset _⟩

theorem enter (lists : t.Lists mentioned bounded) (name : String) :
    (t.enter name).Lists (mentioned ++ [name]) bounded := by
  have within := List.subset_append_of_subset_left [name] lists.within
  have known : t.declared.any (·.name = name) = true ↔ name ∈ mentioned := by
    rw [← List.mem_eraseDups, ← lists.names, List.mem_map, List.any_eq_true]
    simp
  refine ⟨?_, bounded_enter.trans lists.bounds, within⟩
  rw [eraseDups_concat]
  unfold VariableTable.enter
  by_cases listed : name ∈ mentioned
  · rw [if_pos (known.2 listed), if_pos listed]
    exact lists.names
  · rw [if_neg (mt known.1 listed), if_neg listed, List.map_append, lists.names]
    rfl

theorem enterTerms (lists : t.Lists mentioned bounded) (terms : List (String × Float)) :
    (t.enterTerms terms).Lists (mentioned ++ terms.map (·.1)) bounded := by
  unfold VariableTable.enterTerms
  induction terms generalizing t mentioned with
  | nil => simpa using lists
  | cons term terms ih =>
    rw [List.foldl_cons, List.map_cons, List.append_cons]
    exact ih (lists.enter term.1)

theorem update (lists : t.Lists mentioned bounded) (keeps : ∀ v, (f v).name = v.name)
    (name : String) : (t.update name f).Lists (mentioned ++ [name]) bounded := by
  obtain ⟨declared, bounds, within⟩ := lists.enter name
  refine ⟨?_, bounds, within⟩
  rw [← declared, VariableTable.update, List.map_map]
  refine List.map_congr_left fun v _ => ?_
  show (if v.name = name then f v else v).name = v.name
  split
  · exact keeps v
  · rfl

theorem updates (lists : t.Lists mentioned bounded) (keeps : ∀ v, (f v).name = v.name)
    (words : List (List Char)) :
    (words.foldl (fun t w => t.update (String.ofList w) f) t).Lists
      (mentioned ++ words.map String.ofList) bounded := by
  induction words generalizing t mentioned with
  | nil => simpa using lists
  | cons word words ih =>
    rw [List.foldl_cons, List.map_cons, List.append_cons]
    exact ih (lists.update keeps _)

theorem bound (lists : t.Lists mentioned bounded) (keeps : ∀ v, (f v).name = v.name)
    (name : String) : (t.bound name f).Lists (mentioned ++ [name]) (bounded ++ [name]) := by
  obtain ⟨declared, bounds, within⟩ := lists.update keeps name
  refine ⟨declared, congrArg (· ++ [name]) bounds, ?_⟩
  intro other listed
  rw [List.mem_append] at listed ⊢
  exact listed.imp_left fun listed => lists.within listed

/-- Names with bound lines come first, and no name is lost or doubled. -/
theorem ordered (lists : t.Lists mentioned bounded) :
    t.ordered.map (·.name) =
      bounded.eraseDups ++ mentioned.eraseDups.filter (fun name => name ∉ bounded) := by
  unfold VariableTable.ordered
  rw [lists.bounds, List.map_append]
  congr 1
  · have found (name : String) (listed : name ∈ bounded.eraseDups) :
        (t.declared.find? (·.name = name)).map (·.name) = some name := by
      have known : name ∈ t.declared.map (·.name) := by
        rw [lists.names, List.mem_eraseDups]
        exact lists.within (List.mem_eraseDups.1 listed)
      obtain ⟨v, member, named⟩ := List.mem_map.1 known
      have present : (t.declared.find? (·.name = name)).isSome = true :=
        List.find?_isSome.2 ⟨v, member, decide_eq_true named⟩
      obtain ⟨w, first⟩ := Option.isSome_iff_exists.1 present
      have same : w.name = name := by simpa using List.find?_some first
      rw [first, Option.map_some, same]
    rw [List.map_filterMap]
    exact (List.filterMap_congr found).trans List.filterMap_some
  · rw [← lists.names, List.filter_map]
    rfl

theorem mem_ordered (lists : t.Lists mentioned bounded) :
    name ∈ t.ordered.map (·.name) ↔ name ∈ mentioned := by
  rw [lists.ordered, List.mem_append, List.mem_filter, List.mem_eraseDups, List.mem_eraseDups]
  have within := @lists.within name
  grind

theorem nodup_ordered (lists : t.Lists mentioned bounded) : (t.ordered.map (·.name)).Nodup := by
  rw [lists.ordered]
  refine List.nodup_append.2 ⟨nodup_eraseDups _, (nodup_eraseDups _).filter _, ?_⟩
  rintro name first _ second rfl
  have other : name ∉ bounded := of_decide_eq_true (List.mem_filter.1 second).2
  exact other (List.mem_eraseDups.1 first)

end Lists

end VariableTable

/-! ### States -/

namespace Statement

def boundNames (done : List Statement) : List String :=
  (done.filter (·.stage = .bounds)).flatMap names

end Statement

/-- A state after some lines: its table lists their names, and its terms have the names of the
objective and of each row, in order. -/
structure ReadState.Accounts (s : ReadState) (done : List Statement) : Prop where
  table : s.table.Lists (done.flatMap Statement.names) (Statement.boundNames done)
  objective : s.objective.map (·.1) = (done.filter (·.stage = .objective)).flatMap Statement.names
  rows : s.rows.map (·.terms.map (·.1)) =
    (done.filter (·.stage = .constraints)).map Statement.names

namespace ReadState

variable {s t : ReadState} {done : List Statement} {text : List Char}

def noted (s : ReadState) : Option (List Char) → ReadState
  | some comment => s.takeComment comment
  | none => s

theorem stage_noted (s : ReadState) (comment : Option (List Char)) :
    (s.noted comment).stage = s.stage := by
  cases comment with
  | none => rfl
  | some comment =>
    unfold noted takeComment
    dsimp only
    split <;> rfl

theorem stage_takeContent (h : s.takeContent text = .ok t) : t.stage = s.stage := by
  unfold takeContent at h
  cases stage : s.stage with
  | preamble =>
    rw [stage] at h
    cases h
  | objective =>
    rw [stage] at h
    obtain ⟨given, -, taken⟩ := reading_bind_ok_iff.1 h
    cases taken
    exact stage
  | constraints =>
    rw [stage] at h
    obtain ⟨_, _, _, _, _, -, -, -, rfl⟩ := takeRow_cases h
    exact stage
  | bounds =>
    rw [stage] at h
    obtain ⟨line, -, taken⟩ := reading_bind_ok_iff.1 h
    cases taken
    exact stage
  | generals | binaries =>
    rw [stage] at h
    cases h
    exact stage

theorem Accounts.start : start.Accounts [] := ⟨.empty, rfl, rfl⟩

theorem Accounts.append {line : Statement} (accounts : s.Accounts done)
    (table : t.table.Lists (done.flatMap Statement.names ++ line.names)
      (Statement.boundNames done ++ Statement.boundNames [line]))
    (objective : t.objective.map (·.1) = s.objective.map (·.1) ++
      ([line].filter (·.stage = .objective)).flatMap Statement.names)
    (rows : t.rows.map (·.terms.map (·.1)) = s.rows.map (·.terms.map (·.1)) ++
      ([line].filter (·.stage = .constraints)).map Statement.names) :
    t.Accounts (done ++ [line]) := by
  refine ⟨?_, ?_, ?_⟩
  · rw [List.flatMap_append, List.flatMap_singleton, Statement.boundNames, List.filter_append,
      List.flatMap_append]
    exact table
  · rw [objective, accounts.objective, List.filter_append, List.flatMap_append]
  · rw [rows, accounts.rows, List.filter_append, List.map_append]

theorem Accounts.enterTerms {terms : List (String × Float)} {line : Statement}
    (accounts : s.Accounts done) (names : terms.map (·.1) = line.names)
    (free : Statement.boundNames [line] = []) :
    (s.table.enterTerms terms).Lists (done.flatMap Statement.names ++ line.names)
      (Statement.boundNames done ++ Statement.boundNames [line]) := by
  rw [free, List.append_nil, ← names]
  exact accounts.table.enterTerms terms

theorem Accounts.takeObjective (accounts : s.Accounts done) (h : s.takeObjective text = .ok t) :
    t.Accounts (done ++ [⟨.objective, text⟩]) := by
  obtain ⟨given, read, taken⟩ := reading_bind_ok_iff.1 h
  cases taken
  have names : given.1.map (·.1) = Statement.names ⟨.objective, text⟩ := readTerms_names read
  refine accounts.append (accounts.enterTerms names rfl) ?_ (List.append_nil _).symm
  show (s.objective ++ given.1).map _ = _ ++ (Statement.names ⟨.objective, text⟩ ++ [])
  rw [List.map_append, names, List.append_nil]

theorem Accounts.takeRow (accounts : s.Accounts done) (h : s.takeRow text = .ok t) :
    t.Accounts (done ++ [⟨.constraints, text⟩]) := by
  obtain ⟨left, relation, right, given, rhs, cut, read, limit, rfl⟩ := takeRow_cases h
  have names : given.1.map (·.1) = Statement.names ⟨.constraints, text⟩ := by
    rw [Statement.names_row cut limit, readTerms_names read]
  refine accounts.append (accounts.enterTerms names rfl) (List.append_nil _).symm ?_
  rw [List.map_append, List.map_singleton, names]
  rfl

theorem Accounts.takeBound (accounts : s.Accounts done) (h : s.takeBound text = .ok t) :
    t.Accounts (done ++ [⟨.bounds, text⟩]) := by
  obtain ⟨line, read, taken⟩ := reading_bind_ok_iff.1 h
  cases taken
  have name : [String.ofList line.name] = Statement.names ⟨.bounds, text⟩ := by
    rw [BoundLine.read_name read]
    rfl
  have bounds : Statement.boundNames [⟨.bounds, text⟩] = [String.ofList line.name] := by
    rw [name]
    exact List.append_nil _
  refine accounts.append ?_ (List.append_nil _).symm (List.append_nil _).symm
  rw [← name, bounds]
  exact accounts.table.bound (f := line.apply) (fun _ => rfl) (String.ofList line.name)

theorem Accounts.takeList {f : Declared → Declared} {stage : Section}
    (accounts : s.Accounts done) (keeps : ∀ v, (f v).name = v.name)
    (listing : stage = .generals ∨ stage = .binaries) :
    (s.takeList f text).Accounts (done ++ [⟨stage, text⟩]) := by
  have table := accounts.table.updates keeps (Text.words text)
  rcases listing with rfl | rfl <;>
    exact accounts.append ((List.append_nil (Statement.boundNames done)).symm ▸ table)
      (List.append_nil _).symm (List.append_nil _).symm

theorem Accounts.takeContent (accounts : s.Accounts done) (h : s.takeContent text = .ok t) :
    t.Accounts (done ++ [⟨s.stage, text⟩]) := by
  unfold ReadState.takeContent at h
  cases stage : s.stage with
  | preamble =>
    rw [stage] at h
    cases h
  | objective =>
    rw [stage] at h
    exact accounts.takeObjective h
  | constraints =>
    rw [stage] at h
    exact accounts.takeRow h
  | bounds =>
    rw [stage] at h
    exact accounts.takeBound h
  | generals =>
    rw [stage] at h
    cases h
    exact accounts.takeList Problem.name_makeInteger (.inl rfl)
  | binaries =>
    rw [stage] at h
    cases h
    exact accounts.takeList Problem.name_makeBinary (.inr rfl)

theorem readLines_cons (n : Nat) (s : ReadState) (raw : List Char) (lines : List (List Char)) :
    Lp.readLines n s (raw :: lines) =
      if (splitComment raw).1 = [] then Lp.readLines (n + 1) (s.noted (splitComment raw).2) lines
      else if isWord "end" (splitComment raw).1 then .ok (s.noted (splitComment raw).2)
      else match sectionKeyword (splitComment raw).1 with
        | some (stage, sense) =>
          Lp.readLines (n + 1) ((s.noted (splitComment raw).2).openSection stage sense) lines
        | none =>
          match (s.noted (splitComment raw).2).takeContent (splitComment raw).1 with
          | .ok next => Lp.readLines (n + 1) next lines
          | .error fault => .error ⟨n, fault⟩ := by
  rw [Lp.readLines]
  rfl

theorem Accounts.noted (accounts : s.Accounts done) (comment : Option (List Char)) :
    (s.noted comment).Accounts done := by
  cases comment with
  | none => exact accounts
  | some comment =>
    unfold ReadState.noted ReadState.takeComment
    dsimp only
    split
    · exact ⟨accounts.table, accounts.objective, accounts.rows⟩
    · exact accounts

theorem Accounts.openSection (accounts : s.Accounts done) (stage : Section) (sense : Option Sense) :
    (s.openSection stage sense).Accounts done :=
  ⟨accounts.table, accounts.objective, accounts.rows⟩

/-- What comments and keyword lines keep, and every line that is taken extends, holds after reading on. -/
theorem readLines_invariant {P : List Statement → ReadState → Prop}
    (noted : ∀ done s comment, P done s → P done (s.noted comment))
    (opened : ∀ done s stage sense, P done s → P done (s.openSection stage sense))
    (taken : ∀ done s text t, P done s → s.takeContent text = .ok t →
      P (done ++ [⟨s.stage, text⟩]) t)
    {lines : List (List Char)} {n : Nat} (start : P done s) (h : Lp.readLines n s lines = .ok t) :
    P (done ++ statementsFrom s.stage lines) t := by
  induction lines generalizing n s done with
  | nil =>
    cases h
    simpa [statementsFrom] using start
  | cons raw lines ih =>
    have first := noted done s (splitComment raw).2 start
    rw [readLines_cons] at h
    rw [statementsFrom, ← stage_noted s (splitComment raw).2]
    by_cases empty : (splitComment raw).1 = []
    · rw [if_pos empty] at h ⊢
      exact ih first h
    rw [if_neg empty] at h ⊢
    by_cases last : isWord "end" (splitComment raw).1 = true
    · rw [if_pos last] at h ⊢
      cases h
      rw [List.append_nil]
      exact first
    rw [if_neg last] at h ⊢
    cases keyword : sectionKeyword (splitComment raw).1 with
    | some opening =>
      rw [keyword] at h
      exact ih (opened _ _ opening.1 opening.2 first) h
    | none =>
      rw [keyword] at h
      dsimp only at h ⊢
      cases result : (s.noted (splitComment raw).2).takeContent (splitComment raw).1 with
      | error cause =>
        rw [result] at h
        cases h
      | ok next =>
        rw [result] at h
        have after := taken _ _ _ _ first result
        rw [List.append_cons, ← stage_takeContent result]
        rw [← stage_takeContent result] at after
        exact ih after h

theorem Accounts.readLines {lines : List (List Char)} {n : Nat} (accounts : s.Accounts done)
    (h : Lp.readLines n s lines = .ok t) : t.Accounts (done ++ statementsFrom s.stage lines) :=
  readLines_invariant (P := fun done s => s.Accounts done)
    (fun _ _ comment accounts => accounts.noted comment)
    (fun _ _ stage sense accounts => accounts.openSection stage sense)
    (fun _ _ _ _ accounts taken => accounts.takeContent taken) accounts h

end ReadState

/-! ### Documents -/

/-- A document has the names of some lines: those with bound lines first, then the others, each in
order of first use.  Its terms have the names of the objective and of each row, in order. -/
structure Document.Accounts (d : Document) (lines : List Statement) : Prop where
  order : d.declared.map (·.name) = (Statement.boundNames lines).eraseDups ++
    (lines.flatMap Statement.names).eraseDups.filter fun name => name ∉ Statement.boundNames lines
  distinct : (d.declared.map (·.name)).Nodup
  listed : ∀ name, name ∈ d.declared.map (·.name) ↔ ∃ line ∈ lines, name ∈ line.names
  objective : d.objective.map (·.1) = (lines.filter (·.stage = .objective)).flatMap Statement.names
  rows : d.rows.map (·.terms.map (·.1)) =
    (lines.filter (·.stage = .constraints)).map Statement.names

theorem read_accounts {text : String} {d : Document} (h : read text = .ok d) :
    d.Accounts (statements text) := by
  obtain ⟨s, state, rfl⟩ := reading_map_ok_iff.1 h
  obtain ⟨table, objective, rows⟩ := ReadState.Accounts.start.readLines state
  exact ⟨table.ordered, table.nodup_ordered, fun name => table.mem_ordered.trans List.mem_flatMap,
    objective, rows⟩

namespace Document.Accounts

variable {d : Document} {lines : List Statement}

theorem listed_objective (accounts : d.Accounts lines) :
    ∀ term ∈ d.objective, term.1 ∈ d.declared.map (·.name) := by
  intro term member
  have mentioned : term.1 ∈ d.objective.map (·.1) := List.mem_map_of_mem member
  rw [accounts.objective] at mentioned
  obtain ⟨line, listed, named⟩ := List.mem_flatMap.1 mentioned
  exact (accounts.listed _).2 ⟨line, List.mem_of_mem_filter listed, named⟩

theorem listed_rows (accounts : d.Accounts lines) :
    ∀ row ∈ d.rows, ∀ term ∈ row.terms, term.1 ∈ d.declared.map (·.name) := by
  intro row member term inside
  have told : row.terms.map (·.1) ∈ d.rows.map (·.terms.map (·.1)) :=
    List.mem_map_of_mem (f := fun row : Row => row.terms.map (·.1)) member
  rw [accounts.rows] at told
  obtain ⟨line, listed, names⟩ := List.mem_map.1 told
  have mentioned : term.1 ∈ row.terms.map (·.1) := List.mem_map_of_mem inside
  rw [← names] at mentioned
  exact (accounts.listed _).2 ⟨line, List.mem_of_mem_filter listed, mentioned⟩

end Document.Accounts

end LinProg.Lp
