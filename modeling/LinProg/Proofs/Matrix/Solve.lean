import Mathlib
import LinProg.Matrix.Attribute
import LinProg.Matrix.Solve
import LinProg.Proofs.Matrix.Operation
import LinProg.Proofs.Report.Cbc
import LinProg.Proofs.Solver.Run

/-!
# What a solve leaves

The numbers that a solver gives under the names of a view come back at the columns and rows that these
names were made for: `optimize_cbc`.
-/

namespace LinProg

/-! ### Positions and names -/

/-- A vector has the numbers of some positions under their names. -/
def Sparse.Lookups (v : Sparse String) (names : List String) (number : Nat → Float) : Prop :=
  ∀ i name, names[i]? = some name → v.getD name = number i

theorem Sparse.Lookups.getD_map {v : Sparse String} {names : List String} {number : Nat → Float}
    (lookups : v.Lookups names number) {i : Nat} (inside : i < names.length) :
    (names.map v.getD).getD i 0 = number i := by
  have named := List.getElem?_eq_getElem inside
  rw [List.getD_eq_getElem?_getD, List.getElem?_map, named]
  exact lookups i _ named

namespace Body

def objectiveAt (b : Body) (x : Nat → Float) : Float :=
  b.constant + Number.sum (b.columns.mapIdx fun j c => c.objective * x j)

/-- The slack of a row: its right hand side less the sum of its entries times their columns. -/
def slackAt (b : Body) (x : Nat → Float) (i : Nat) : Float :=
  match b.rows[i]? with
  | some r => r.rhs - Number.sum (r.entries.map fun (c, a) => a * x c)
  | none => 0

variable {b : Body} {s : Solution} {x : Nat → Float}

theorem getD_values (results : s.results.Lookups b.viewNames.columns x)
    (beyond : ∀ j, b.columns.length ≤ j → x j = 0) (j : Nat) :
    (b.values s).columns.getD j 0 = x j := by
  have count := b.length_viewColumns
  rcases Nat.lt_or_ge j b.columns.length with inside | outside
  · exact results.getD_map (inside.trans_eq count.symm)
  · rw [beyond j outside]
    apply List.getD_eq_default
    show (b.viewNames.columns.map s.results.getD).length ≤ j
    rwa [List.length_map, count]

theorem objective_values (results : s.results.Lookups b.viewNames.columns x) :
    (b.values s).objective = b.objectiveAt x := by
  have terms : (b.columns.zip (b.viewNames.columns.map s.results.getD)).map
      (fun t => t.1.objective * t.2) = b.columns.mapIdx fun j c => c.objective * x j := by
    apply List.ext_getElem
    · simp [length_viewColumns]
    · intro j here there
      have inside : j < b.viewNames.columns.length := by
        rw [length_viewColumns]
        simpa using there
      have value := results j _ (List.getElem?_eq_getElem inside)
      simp [value]
  exact congrArg (fun l => b.constant + Number.sum l) terms

theorem slacks_values (results : s.results.Lookups b.viewNames.columns x)
    (beyond : ∀ j, b.columns.length ≤ j → x j = 0) {i : Nat} (inside : i < b.rows.length) :
    (b.values s).slacks.getD i 0 = b.slackAt x i := by
  have value := getD_values results beyond
  have row := List.getElem?_eq_getElem inside
  show (b.rows.map fun r => r.rhs - activity r.entries (b.values s).columns).getD i 0 = _
  unfold slackAt activity
  rw [List.getD_eq_getElem?_getD, List.getElem?_map, row]
  simp only [value, Option.map_some, Option.getD_some]

end Body

namespace Matrix

/-! ### Attributes -/

/-- Reading gives a number for each position, as long as all are below a count. -/
def Gives (read : List Nat → Except MatrixError (List Float)) (count : Nat) (x : Nat → Float) :
    Prop :=
  ∀ is, (∀ i ∈ is, i < count) → read is = .ok (is.map x)

theorem gives_pick {axis : Axis} {count : Nat} {values : List Float} {x : Nat → Float}
    (each : ∀ i < count, values.getD i 0 = x i) : Gives (pick axis count values) count x := by
  intro is inside
  induction is with
  | nil => rfl
  | cons i is ih =>
    obtain ⟨first, others⟩ := List.forall_mem_cons.1 inside
    unfold pick at ih ⊢
    rw [List.mapM_cons, if_pos first, each i first, ih others]
    rfl

/-- Reading gives a number for each position, or what is asked for is not available. -/
def GivesIf (read : List Nat → Except MatrixError (List Float)) (count : Nat) (what : String) :
    Option (Nat → Float) → Prop
  | some x => Gives read count x
  | none => ∀ is, read is = .error (.unavailable what)

/-- A vector has numbers for names, or there are none and it is empty. -/
def Reports (v : Sparse String) (names : List String) : Option (Nat → Float) → Prop
  | some number => v.isEmpty = false ∧ v.Lookups names number
  | none => v.isEmpty = true

theorem givesIf_pick {v : Sparse String} {names : List String} {number? : Option (Nat → Float)}
    (axis : Axis) (what : String) (reports : Reports v names number?) :
    GivesIf (fun is => match if v.isEmpty then none else some (names.map v.getD) with
      | some values => pick axis names.length values is
      | none => .error (.unavailable what)) names.length what number? := by
  cases number? with
  | none =>
    have none : v.isEmpty = true := reports
    intro is
    simp only [if_pos none]
  | some number =>
    obtain ⟨filled, lookups⟩ := reports
    have some : ¬v.isEmpty = true := by simp [filled]
    simp only [if_neg some]
    exact gives_pick fun i inside => lookups.getD_map inside

/-- A matrix shows values of its columns with what follows from them, and reduced costs and duals if
there are any. -/
structure Shows (m : Matrix) (x : Nat → Float) (reduced dual : Option (Nat → Float)) : Prop where
  value : Gives (m.columnAttribute .value) m.body.columns.length x
  reducedCost : GivesIf (m.columnAttribute .reducedCost) m.body.columns.length "RC" reduced
  dual : GivesIf (m.rowAttribute .dual) m.body.rows.length "Pi" dual
  objective : m.objectiveValue = .ok (m.body.objectiveAt x)
  slack : Gives (m.rowAttribute .slack) m.body.rows.length (m.body.slackAt x)

@[simp] theorem body_store (m : Matrix) (s : Solution) : (m.store s).body = m.body := rfl

theorem shows_store {m : Matrix} {s : Solution} {x : Nat → Float}
    {reduced dual : Option (Nat → Float)}
    (solved : (Status.ofOutcome s.outcome).hasSolution = true)
    (results : s.results.Lookups m.body.viewNames.columns x)
    (beyond : ∀ j, m.body.columns.length ≤ j → x j = 0)
    (reducedCosts : Reports s.reducedCosts m.body.viewNames.columns reduced)
    (duals : Reports s.duals m.body.viewNames.rows dual) : (m.store s).Shows x reduced dual := by
  have stored : (m.store s).values = some (m.body.values s) := if_pos solved
  refine ⟨?_, ?_, ?_, ?_, ?_⟩
  · unfold columnAttribute columnAttribute?
    rw [stored]
    exact gives_pick fun j _ => Body.getD_values results beyond j
  · unfold columnAttribute columnAttribute?
    rw [stored]
    have given := givesIf_pick .column "RC" reducedCosts
    rwa [Body.length_viewColumns] at given
  · unfold rowAttribute rowAttribute?
    rw [stored]
    have given := givesIf_pick .row "Pi" duals
    rwa [Body.length_viewRows] at given
  · unfold objectiveValue
    rw [stored]
    exact congrArg Except.ok (Body.objective_values results)
  · unfold rowAttribute rowAttribute?
    rw [stored]
    exact gives_pick fun i inside => Body.slacks_values results beyond inside

/-! ### Cbc -/

section Cbc
open CbcReport

variable {m : Matrix} {p : Program} {params : Params} {host : Host} {content : ByteArray}
  {outcome : Outcome} {value dual : Axis → Nat → Float} {places : List (Axis × Nat)}
  {names : ViewNames}

theorem reports_entriesOf (axis : Axis) (unique : names.Unique)
    (inside : ∀ place ∈ places, place.2 < (names.on place.1).length)
    (number : Axis → Nat → Float) :
    Reports (Sparse.empty.setAll (entriesOf names axis number places)) (names.on axis)
      (if places.any (·.1 = axis) then some (listed number places axis) else none) := by
  have filled : (Sparse.empty.setAll (entriesOf names axis number places)).isEmpty =
      !places.any (·.1 = axis) :=
    (Sparse.isEmpty_setAll _ _).trans (isEmpty_entriesOf inside number)
  split
  · rename_i some
    refine ⟨by rw [filled, some, Bool.not_true], fun i name here => ?_⟩
    exact getD_setAll_entriesOf unique number here rfl
  · rename_i none
    have unlisted := Bool.eq_false_of_not_eq_true none
    show Sparse.isEmpty _ = true
    rw [filled, unlisted, Bool.not_false]

/-- If all of an axis is listed, there are no numbers only if there is nothing on the axis. -/
theorem reports_entriesOf_complete (axis : Axis) (unique : names.Unique)
    (inside : ∀ place ∈ places, place.2 < (names.on place.1).length)
    (complete : ∀ i < (names.on axis).length, (axis, i) ∈ places) (number : Axis → Nat → Float) :
    Reports (Sparse.empty.setAll (entriesOf names axis number places)) (names.on axis)
      (if (names.on axis).length = 0 then none else some (number axis)) := by
  have reports := reports_entriesOf axis unique inside number
  by_cases none : (names.on axis).length = 0
  · have unlisted : ¬places.any (·.1 = axis) = true := by
      intro some
      obtain ⟨place, member, same⟩ := List.any_eq_true.1 some
      have within := inside place member
      rw [of_decide_eq_true same, none] at within
      exact Nat.not_lt_zero _ within
    rw [if_neg unlisted] at reports
    rwa [if_pos none]
  · have first : (axis, 0) ∈ places := complete 0 (Nat.pos_of_ne_zero none)
    have some : places.any (·.1 = axis) = true := List.any_eq_true.2 ⟨_, first, by simp⟩
    rw [if_pos some] at reports
    obtain ⟨filled, lookups⟩ := reports
    rw [if_neg none]
    refine ⟨filled, fun i name here => (lookups i name here).trans ?_⟩
    obtain ⟨within, -⟩ := List.getElem?_eq_some_iff.1 here
    exact if_pos (complete i within)

/-- The numbers that a file of Cbc lists come back at the columns and rows that it means, whatever
these are called. -/
theorem optimize_cbc (kind : p.kind = .cbc)
    (reads : p.Reads (m.flush.body.problem m.name) params host content)
    (report : IsReport m.flush.body.viewNames outcome value dual places content)
    (solved : (Status.ofOutcome outcome).hasSolution = true)
    (complete : ∀ i < m.flush.body.rows.length, (.row, i) ∈ places) :
    ∃ s after, CbcReport.read (some (m.flush.body.problem m.name)) content = .ok s ∧
      Apart m.flush.body.viewNames s ∧
      m.optimize (.program p) params host =
        (.ok (Status.ofOutcome outcome), m.flush.store s, after) ∧
      (m.flush.store s).Shows (listed value places .column)
        (if places.any (·.1 = .column) then some (listed dual places .column) else none)
        (if m.flush.body.rows.length = 0 then none else some (dual .row)) := by
  have unique := m.flush.body.unique_viewNames
  have columnCount := m.flush.body.length_viewColumns
  have rowCount := m.flush.body.length_viewRows
  let s := told m.flush.body.viewNames outcome value dual places
  have read : CbcReport.read (some (m.flush.body.problem m.name)) content = .ok s :=
    read_report unique (m.flush.body.map_name_columns m.name) (m.flush.body.map_name_rows m.name)
      report
  have said : p.readReport (some (m.flush.body.problem m.name)) content = .ok s := by
    unfold Program.readReport
    rw [kind]
    exact read
  obtain ⟨after, ran⟩ := Program.run_of_reads reads said
  obtain ⟨header, lines, -, -, listing, -⟩ := report
  have inside := listing.inside
  refine ⟨s, after, read, apart_told unique, ?_, shows_store solved ?_ ?_ ?_ ?_⟩
  · have solve : (Solver.program p).run (m.flush.body.problem m.name) params host = .ok s after := ran
    unfold optimize
    simp only [name_flush, solve]
    rfl
  · intro j name column
    have named : m.flush.body.viewNames.at? .column j = some name := column
    exact getD_setAll_entriesOf unique value named (getD_zeros _ name)
  · -- the sums over a row may look beyond the last column, where nothing is listed
    intro j beyond
    refine if_neg fun member => ?_
    exact absurd ((inside _ member).trans_eq columnCount) (Nat.not_lt.2 beyond)
  · exact reports_entriesOf .column unique inside dual
  · rw [← rowCount]
    refine reports_entriesOf_complete .row unique inside (fun i within => ?_) dual
    exact complete i (within.trans_eq rowCount)

/-! A matrix whose names clash with each other, with a word of the format and with what columns and
rows without a name are called. -/

def clashing : Matrix :=
  let column (name : Option String) : MatrixColumn := ⟨0, 10, 2, .continuous, name⟩
  { empty "model" with
    queue := [.addColumns [column "x", column "x", column "end", column none],
      .addRow ⟨[(0, 1), (3, 2)], .le, 4, "x2"⟩, .addRow ⟨[], .ge, 0, none⟩]
    columnCount := 4
    rowCount := 2 }

/-- The lines of a solution file after the first.  Two columns are left out. -/
def clashingLines : List String :=
  ["  1 c1  0 -2", " ", "** 0 vend\t3  -1\r", "0 x22 4 0.5", "7   x 1.5 0"]

def clashingFile : ByteArray :=
  (String.ofList (List.intercalate ['\n']
    ("Optimal - objective value 9".toList :: clashingLines.map String.toList))).toUTF8

def clashingValue : Axis → Nat → Float
  | .column, 0 => 1.5
  | .column, _ => 3
  | .row, 0 => 4
  | .row, _ => 0

def clashingDual : Axis → Nat → Float
  | .column, 0 => 0
  | .column, _ => -1
  | .row, 0 => 0.5
  | .row, _ => -2

theorem listing_clashing : Listing clashing.flush.body.viewNames clashingValue clashingDual
    [(.row, 1), (.column, 2), (.row, 0), (.column, 0)] (clashingLines.map String.toList) := by
  have names : clashing.flush.body.viewNames = ⟨["x", "x2", "vend", "x3"], ["x22", "c1"]⟩ := by
    decide +kernel
  have unique := clashing.flush.body.unique_viewNames
  rw [names] at unique ⊢
  have space : Text.IsSpace " ".toList := by
    intro c member
    obtain rfl : c = ' ' := by simpa using member
    rfl
  refine .of_words unique rfl ⟨[], ['1'], ['0'], ['-', '2'], .inr ?_, ?_⟩ (.blank space ?_)
  · decide +kernel
  · decide +kernel
  refine .of_words unique rfl ⟨[mark], ['0'], ['3'], ['-', '1'], .inl rfl, ?_⟩ ?_
  · decide +kernel
  refine .of_words unique rfl ⟨[], ['0'], ['4'], ['0', '.', '5'], .inr ?_, ?_⟩ ?_
  · decide +kernel
  · decide +kernel
  refine .of_words unique rfl ⟨[], ['7'], ['1', '.', '5'], ['0'], .inr ?_, ?_⟩ .nil
  · decide +kernel
  · decide +kernel

def clashingHost : Host := ⟨.empty, [("cbc", [⟨0, .empty, some clashingFile⟩])], []⟩

theorem optimize_cbc_clashing : ∃ s after,
    clashing.optimize (.program (.ofKind .cbc)) .default clashingHost =
        (.ok .optimal, clashing.flush.store s, after) ∧
      (clashing.flush.store s).columnAttribute .value [0, 1, 2, 3] = .ok [1.5, 0, 3, 0] ∧
      (clashing.flush.store s).columnAttribute .reducedCost [3, 2] = .ok [0, -1] ∧
      (clashing.flush.store s).rowAttribute .dual [1, 0] = .ok [-2, 0.5] ∧
      (clashing.flush.store s).objectiveValue = .ok 9 ∧
      (clashing.flush.store s).rowAttribute .slack [0] = .ok [2.5] := by
  have reads : (Program.ofKind .cbc).Reads (clashing.flush.body.problem clashing.name) .default
      clashingHost clashingFile :=
    ⟨.fresh, _, clashingHost, _, rfl, rfl, List.mem_cons_self, rfl⟩
  have report : IsReport clashing.flush.body.viewNames .optimal clashingValue clashingDual
      [(.row, 1), (.column, 2), (.row, 0), (.column, 0)] clashingFile :=
    ⟨_, _, by decide +kernel, by decide +kernel, listing_clashing, rfl⟩
  obtain ⟨s, after, -, -, solved, shows⟩ := optimize_cbc rfl reads report rfl (by decide +kernel)
  obtain ⟨value, reducedCost, dual, objective, slack⟩ := shows
  rw [body_store] at value reducedCost dual objective slack
  refine ⟨s, after, solved, ?_, ?_, ?_, ?_, ?_⟩
  · exact (value [0, 1, 2, 3] (by decide +kernel)).trans (by decide +kernel)
  · exact (reducedCost [3, 2] (by decide +kernel)).trans (by decide +kernel)
  · exact (dual [1, 0] (by decide +kernel)).trans (by decide +kernel)
  · exact objective.trans (by decide +kernel)
  · exact (slack [0] (by decide +kernel)).trans (by decide +kernel)

end Cbc

end Matrix

end LinProg
