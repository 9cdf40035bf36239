import Mathlib
import LinProg.Proofs.Lp.Written

/-!
# Problems read back

Reading the text of a problem gives the problem, as `Problem.document` says it: `read_text`.  The
lower bound of a binary column that is a negative zero comes back as zero, which compares equal.
-/

namespace LinProg
open Lp (IsName IsTerm IsLimit ReadState VariableTable)
open Text (lines)

/-! ### The table of a written problem -/

/-- A table that has met only some names, and says nothing about them. -/
structure Lp.VariableTable.IsFresh (names : List String) (t : VariableTable) : Prop where
  all : ∀ m, t.lookupD m = fresh m
  within : ∀ m, m ∉ names → t.lookup m = none
  unbounded : t.bounded = []

namespace Problem

variable {p : Problem}

theorem isFresh_enterTerms {names : List String} {terms : List (String × Float)}
    (known : ∀ t ∈ terms, t.1 ∈ names) {t : VariableTable} (h : t.IsFresh names) :
    (t.enterTerms terms).IsFresh names := by
  induction terms generalizing t with
  | nil => exact h
  | cons term rest ih =>
    apply ih fun other member => known other (List.mem_cons_of_mem _ member)
    have first := known term (List.mem_cons_self ..)
    refine ⟨fun m => ?_, fun m absent => ?_, ?_⟩
    · unfold VariableTable.lookupD
      rw [VariableTable.lookup_enter]
      split
      · rename_i same
        subst same
        exact h.all _
      · exact h.all m
    · have different : m ≠ term.1 := fun same => absent (same ▸ first)
      rw [VariableTable.lookup_enter, if_neg different]
      exact h.within m absent
    · exact VariableTable.bounded_enter.trans h.unbounded

theorem isFresh_rows (h : p.Writable) {rows : List ProblemRow} (some : ∀ row ∈ rows, row ∈ p.rows)
    {t : VariableTable} (fresh : t.IsFresh (p.columns.map (·.name))) :
    (rows.foldl (fun t row => t.enterTerms (p.writtenTerms row.terms)) t).IsFresh
      (p.columns.map (·.name)) := by
  induction rows generalizing t with
  | nil => exact fresh
  | cons row rows ih =>
    refine ih (fun other member => some other (List.mem_cons_of_mem _ member)) ?_
    have member := some row (List.mem_cons_self ..)
    exact isFresh_enterTerms (name_mem_of_mem_writtenTerms (h.terms row member)) fresh

/-- The table after the objective and the rows. -/
def termsTable (p : Problem) : VariableTable :=
  p.rows.foldl (fun t row => t.enterTerms (p.writtenTerms row.terms))
    (VariableTable.empty.enterTerms (p.writtenTerms p.objective))

/-- The table after bounds and lists have been read into a fresh one. -/
def fullTable (p : Problem) (t : VariableTable) : VariableTable :=
  (p.listed .binary).foldl (fun t c => t.update c.name ReadState.makeBinary)
    ((p.listed .integer).foldl (fun t c => t.update c.name ReadState.makeInteger)
      (p.columns.foldl (fun t c => t.bound c.name (Lp.boundLine c).apply) t))

theorem lookup_bound (t : VariableTable) (c : ProblemColumn) (m : String) :
    (t.bound c.name (Lp.boundLine c).apply).lookup m =
      if m = c.name then some ((Lp.boundLine c).apply (t.lookupD m)) else t.lookup m := by
  refine (VariableTable.lookup_update (f := (Lp.boundLine c).apply) fun _ => rfl).trans ?_
  split
  · rename_i same
    rw [same]
  · rfl

theorem lookup_list {f : Lp.Declared → Lp.Declared} (keeps : ∀ v, (f v).name = v.name)
    (t : VariableTable) (c : ProblemColumn) (m : String) :
    (t.update c.name f).lookup m =
      if m = c.name then some (f (t.lookupD m)) else t.lookup m := by
  refine (VariableTable.lookup_update keeps).trans ?_
  split
  · rename_i same
    rw [same]
  · rfl

theorem name_makeInteger (v : Lp.Declared) : (ReadState.makeInteger v).name = v.name := by
  unfold ReadState.makeInteger
  split <;> rfl

theorem name_makeBinary (v : Lp.Declared) : (ReadState.makeBinary v).name = v.name := rfl

theorem makeBinary_bounds {c : ProblemColumn} (binary : c.domain = .binary) (lower : 0 ≤ c.lower)
    (upper : c.upper ≤ 1) :
    ReadState.makeBinary ⟨c.name, c.lower, c.upper, .continuous⟩ = c.declared := by
  have low : (if 0 < c.lower then c.lower else 0) =
      if c.domain = .binary ∧ (c.lower == 0) = true then 0 else c.lower := by
    rcases Number.le_iff.1 lower with positive | zero
    · have other : ¬(c.lower == 0) = true := by
        intro zero
        rw [Number.beq_iff] at zero
        rw [Number.lt_iff, Number.compare_swap, zero] at positive
        cases positive
      rw [if_pos positive, if_neg fun both => other both.2]
    · have same : (c.lower == 0) = true := by
        rw [Number.beq_iff] at zero ⊢
        rw [Number.compare_swap, zero]
        rfl
      have notPositive : ¬0 < c.lower := by
        rw [Number.lt_iff, Number.beq_iff.1 zero]
        decide
      rw [if_neg notPositive, if_pos ⟨binary, same⟩]
  have high : (if c.upper < 1 then c.upper else 1) = c.upper := by
    rcases Number.le_iff.1 upper with below | one
    · rw [if_pos below]
    · rw [Number.eq_one_of_beq one]
      exact if_neg (by decide)
  unfold ReadState.makeBinary ProblemColumn.declared
  dsimp only
  rw [low, high, binary]

theorem distinct_listed (h : p.Writable) (domain : Domain) :
    ((p.listed domain).map (·.name)).Nodup :=
  h.distinct.sublist (List.filter_sublist.map _)

theorem name_not_mem_listed (h : p.Writable) {domain : Domain} {c : ProblemColumn}
    (member : c ∈ p.columns) (other : c.domain ≠ domain) :
    c.name ∉ (p.listed domain).map (·.name) := by
  intro listed
  obtain ⟨d, inList, same⟩ := List.mem_map.1 listed
  obtain ⟨member', domain'⟩ := List.mem_filter.1 inList
  have equal := List.inj_on_of_nodup_map h.distinct member' member same
  rw [equal] at domain'
  exact other (of_decide_eq_true domain')

theorem mem_listed {domain : Domain} {c : ProblemColumn} (member : c ∈ p.columns)
    (same : c.domain = domain) : c ∈ p.listed domain :=
  List.mem_filter.2 ⟨member, decide_eq_true same⟩

theorem lookup_fullTable (h : p.Writable) {t : VariableTable}
    (fresh : t.IsFresh (p.columns.map (·.name))) {c : ProblemColumn} (member : c ∈ p.columns) :
    (p.fullTable t).lookup c.name = some c.declared := by
  have bounds := VariableTable.lookup_foldl_of_mem lookup_bound h.distinct member t
  rw [fresh.all, Lp.apply_boundLine (h.upper c member)] at bounds
  have stepInteger := lookup_list name_makeInteger
  have stepBinary := lookup_list name_makeBinary
  unfold fullTable
  generalize p.columns.foldl (fun t c => t.bound c.name (Lp.boundLine c).apply) t = bounded
    at bounds
  have boundedD : bounded.lookupD c.name = ⟨c.name, c.lower, c.upper, .continuous⟩ := by
    unfold VariableTable.lookupD
    rw [bounds]
    rfl
  cases domain : c.domain with
  | continuous =>
    have notBinary := name_not_mem_listed h member (domain ▸ by decide : c.domain ≠ .binary)
    have notInteger := name_not_mem_listed h member (domain ▸ by decide : c.domain ≠ .integer)
    rw [VariableTable.lookup_foldl_of_not_mem stepBinary notBinary,
      VariableTable.lookup_foldl_of_not_mem stepInteger notInteger, bounds]
    unfold ProblemColumn.declared
    rw [domain]
    rfl
  | integer =>
    have notBinary := name_not_mem_listed h member (domain ▸ by decide : c.domain ≠ .binary)
    rw [VariableTable.lookup_foldl_of_not_mem stepBinary notBinary,
      VariableTable.lookup_foldl_of_mem stepInteger (distinct_listed h .integer)
        (mem_listed member domain), boundedD]
    unfold ProblemColumn.declared
    rw [domain]
    rfl
  | binary =>
    have notInteger := name_not_mem_listed h member (domain ▸ by decide : c.domain ≠ .integer)
    have unit := h.unit c member domain
    rw [VariableTable.lookup_foldl_of_mem stepBinary (distinct_listed h .binary)
      (mem_listed member domain)]
    unfold VariableTable.lookupD at boundedD ⊢
    rw [VariableTable.lookup_foldl_of_not_mem stepInteger notInteger, boundedD,
      makeBinary_bounds domain unit.1 unit.2]

theorem not_mem_listed {m : String} (absent : m ∉ p.columns.map (·.name)) (domain : Domain) :
    m ∉ (p.listed domain).map (·.name) := fun listed =>
  absent ((List.filter_sublist.map _).mem listed)

theorem ordered_fullTable (h : p.Writable) {t : VariableTable}
    (fresh : t.IsFresh (p.columns.map (·.name))) :
    (p.fullTable t).ordered = p.columns.map ProblemColumn.declared := by
  refine VariableTable.ordered_eq_map ?_ h.distinct ?_ ?_
  · unfold fullTable
    rw [VariableTable.bounded_foldl_update, VariableTable.bounded_foldl_update,
      VariableTable.bounded_foldl_bound, fresh.unbounded, List.nil_append]
  · exact fun c member => lookup_fullTable h fresh member
  · intro m absent
    unfold fullTable
    rw [VariableTable.lookup_foldl_of_not_mem (lookup_list name_makeBinary)
        (not_mem_listed absent .binary),
      VariableTable.lookup_foldl_of_not_mem (lookup_list name_makeInteger)
        (not_mem_listed absent .integer),
      VariableTable.lookup_foldl_of_not_mem lookup_bound absent]
    exact fresh.within m absent

/-! ### The whole text -/

theorem toList_text (p : Problem) :
    p.text.toList = '\\' :: ' ' :: p.name.toList ++ '\n' :: ('\n' ::
      (p.objectiveText.toList ++ (p.rowsText.toList ++ (p.boundsText.toList ++
        ((p.domainText "Generals" .integer).toList ++
          ((p.domainText "Binaries" .binary).toList ++ "\nEnd\n".toList)))))) := by
  unfold text
  simp only [String.toList_append, List.append_assoc]
  rfl

theorem takeContent_generals (s : ReadState) (opened : s.stage = .generals) (text : List Char) :
    s.takeContent text = .ok (s.takeList ReadState.makeInteger text) := by
  unfold ReadState.takeContent
  rw [opened]

theorem takeContent_binaries (s : ReadState) (opened : s.stage = .binaries) (text : List Char) :
    s.takeContent text = .ok (s.takeList ReadState.makeBinary text) := by
  unfold ReadState.takeContent
  rw [opened]

theorem isFresh_termsTable (h : p.Writable) :
    p.termsTable.IsFresh (p.columns.map (·.name)) := by
  refine isFresh_rows h (fun _ member => member) ?_
  refine isFresh_enterTerms (name_mem_of_mem_writtenTerms h.objective) ?_
  exact ⟨fun _ => rfl, fun _ _ => rfl, rfl⟩

theorem read_text (h : p.Writable) : Lp.read p.text = .ok p.document := by
  have title := Lp.readLines_title (fun empty => h.titled (String.toList_eq_nil_iff.1 empty))
    h.trimmed h.oneLine 1 ('\n' :: (p.objectiveText.toList ++ (p.rowsText.toList ++
      (p.boundsText.toList ++ ((p.domainText "Generals" .integer).toList ++
        ((p.domainText "Binaries" .binary).toList ++ "\nEnd\n".toList))))))
  rw [String.ofList_toList] at title
  obtain ⟨_, _, rows⟩ := readLines_rowsText h
    (p.afterObjective { ReadState.start with name := p.name }) 5 _
  obtain ⟨_, _, bounds⟩ := readLines_boundsText h _ _ _
  obtain ⟨_, _, generals⟩ := readLines_domainText h "Generals" .integer
    (.of_all (by decide) (by decide)) (by decide) (by decide) takeContent_generals _ _ _
  obtain ⟨_, _, binaries⟩ := readLines_domainText h "Binaries" .binary
    (.of_all (by decide) (by decide)) (by decide) (by decide) takeContent_binaries _ _ _
  unfold Lp.read
  rw [toList_text, title, Lp.readLines_empty, readLines_objectiveText h, rows, bounds, generals,
    binaries]
  have last (s : ReadState) (n : Nat) : Lp.readLines n s (lines "\nEnd\n".toList) = .ok s := by
    have text : "\nEnd\n".toList = '\n' :: "End\n".toList := rfl
    rw [text, Lp.readLines_empty, Lp.readLines_end]
  have declared := ordered_fullTable h (isFresh_termsTable h)
  rw [last]
  show Except.ok (⟨p.name, p.sense, [] ++ p.writtenTerms p.objective,
    [] ++ p.rows.map p.writtenRow, (p.fullTable p.termsTable).ordered⟩ : Lp.Document) = .ok p.document
  rw [declared, List.nil_append, List.nil_append]
  rfl

/-- What a text declares is the column, but for the sign of a zero that bounds a binary column from
below. -/
structure Declares (v : Lp.Declared) (c : ProblemColumn) : Prop where
  name : v.name = c.name
  domain : v.domain = c.domain
  lower : v.lower = c.lower ∨ c.domain = .binary ∧ c.lower = Number.negativeZero ∧ v.lower = 0
  upper : v.upper = c.upper

theorem declares_declared (c : ProblemColumn) : Declares c.declared c := by
  refine ⟨rfl, rfl, ?_, rfl⟩
  unfold ProblemColumn.declared
  dsimp only
  split
  · rename_i both
    obtain ⟨-, -, zero⟩ := Float.beq_iff_ne_nan_and_eq.1 both.2
    rcases zero with same | ⟨same, -⟩ | ⟨same, -⟩
    · exact .inl same.symm
    · exact .inl same.symm
    · exact .inr ⟨both.1, same, rfl⟩
  · exact .inl rfl

/-- The reader inverts the writer: the text of a writable problem reads back as its name and sense,
its terms other than zero in order, its rows and its columns in order. -/
theorem text_reads_back (h : p.Writable) :
    ∃ d, Lp.read p.text = .ok d ∧ d.name = p.name ∧ d.sense = p.sense ∧
      d.objective = p.writtenTerms p.objective ∧
      d.rows = p.rows.map (fun row =>
        ⟨row.name, p.writtenTerms row.terms, row.relation, row.rhs⟩) ∧
      List.Forall₂ Declares d.declared p.columns := by
  refine ⟨p.document, read_text h, rfl, rfl, rfl, rfl, ?_⟩
  show List.Forall₂ Declares (p.columns.map ProblemColumn.declared) p.columns
  rw [List.forall₂_map_left_iff, List.forall₂_same]
  exact fun c _ => declares_declared c

/-- A problem with a column of each domain, duplicate terms, an empty row and infinite limits. -/
def mixedProblem : Problem where
  name := "mixed model"
  sense := .maximize
  columns := [⟨"x", .binary, -0.0, 1⟩, ⟨"e1", .integer, -Number.infinity, 2.5⟩,
    ⟨"z", .continuous, -Number.infinity, Number.infinity⟩]
  objective := [(0, -1), (2, 0), (1, 2.5)]
  rows := [⟨"end", [(1, 3), (1, 0.1), (0, 0)], .ge, -Number.infinity⟩, ⟨"r", [], .eq, -4⟩]

theorem text_reads_back_mixedProblem :
    mixedProblem.Writable ∧ ∃ d, Lp.read mixedProblem.text = .ok d ∧
      d.rows = [⟨"end", [("e1", 3), ("e1", 0.1)], .ge, -Number.infinity⟩,
        ⟨"r", [("x", 0)], .eq, -4⟩] := by
  have writable : mixedProblem.Writable := by decide +kernel
  obtain ⟨d, read, -, -, -, rows, -⟩ := text_reads_back writable
  refine ⟨writable, d, read, ?_⟩
  rw [rows]
  decide +kernel

end Problem

end LinProg
