import Mathlib
import LinProg.Proofs.Matrix.Checked
import LinProg.Proofs.Matrix.Reachable

/-!
# Positions stay within the columns and rows

The counts of a matrix are those of its body and its queue together, every edit in the queue refers
to what exists when its turn comes, and values belong to the flushed columns and rows one by one.
Every operation keeps this, whatever a solver answers, so no access by position ever fails:
`accesses_within`.
-/

namespace LinProg

/-- The values belong to the columns and rows of a body, one by one. -/
structure Values.Fits (v : Values) (b : Body) : Prop where
  columns : v.columns.length = b.columns.length
  reducedCosts : ∀ costs ∈ v.reducedCosts, costs.length = b.columns.length
  duals : ∀ duals ∈ v.duals, duals.length = b.rows.length
  slacks : v.slacks.length = b.rows.length

theorem Body.fits_values (b : Body) (s : Solution) : (b.values s).Fits b := by
  constructor
  · exact (List.length_map ..).trans b.length_viewColumns
  · intro costs reported
    unfold values at reported
    dsimp only at reported
    split at reported
    · cases reported
    · cases reported
      exact (List.length_map ..).trans b.length_viewColumns
  · intro duals reported
    unfold values at reported
    dsimp only at reported
    split at reported
    · cases reported
    · cases reported
      exact (List.length_map ..).trans b.length_viewRows
  · exact List.length_map ..

/-- What is written of the body, and what is put back into it, finds every position. -/
structure Body.Accessible (b : Body) : Prop where
  text : ∀ name, Checked.text (b.problem name) = some (b.problem name).text
  values : ∀ s, Checked.values b s = some (b.values s)

theorem Body.Linked.accessible {b : Body} (linked : b.Linked) : b.Accessible :=
  ⟨Checked.text_problem linked, Checked.values_eq linked⟩

namespace Matrix
open Operation

variable {m n : Matrix}

/-- The matrices that operations lead to, whatever solvers answer. -/
inductive Attained : Matrix → Prop where
  | empty (name : String) : Attained (empty name)
  | readFrom {disk : Disk} {path : String} {m : Matrix} :
      readFrom disk path = .ok m → Attained m
  | step {m n : Matrix} : Attained m → Step m n → Attained n
  | solved {m : Matrix} (s : Solution) : Attained m → Attained (m.flush.store s)

/-- Counts, queue, rows and values go together. -/
structure Indexed (m : Matrix) : Prop where
  columnCount : m.columnCount = m.body.columns.length + (m.queue.map Edit.newColumns).sum
  rowCount : m.rowCount = m.body.rows.length + (m.queue.map Edit.newRows).sum
  queue : m.body.Admits m.queue
  rows : ∀ r ∈ m.body.rows, ∀ t ∈ r.entries, t.1 < m.body.columns.length
  values : ∀ v ∈ m.values, v.Fits m.body

namespace Indexed

theorem linked (indexed : m.Indexed) : m.body.Linked := Body.linked_iff.2 indexed.rows

theorem flush (indexed : m.Indexed) : m.flush.Indexed := by
  have columns := Body.length_columns_applyAll m.body m.queue
  have rows := Body.length_rows_applyAll m.body m.queue
  have linked := Body.linked_applyAll indexed.linked indexed.queue
  unfold Matrix.flush
  split
  · exact indexed
  · exact ⟨indexed.columnCount.trans columns.symm, indexed.rowCount.trans rows.symm, trivial,
      linked.within, nofun⟩

theorem extended (indexed : m.Indexed) {e : Edit} (within : e.Within m.columnCount m.rowCount) :
    (m.extended e).Indexed := by
  have columns := Body.length_columns_applyAll m.body m.queue
  have rows := Body.length_rows_applyAll m.body m.queue
  rw [← indexed.columnCount] at columns
  rw [← indexed.rowCount] at rows
  constructor
  · show m.columnCount + e.newColumns =
      m.body.columns.length + ((m.queue ++ [e]).map Edit.newColumns).sum
    rw [indexed.columnCount]
    simp only [List.map_append, List.sum_append, List.map_cons, List.map_nil, List.sum_singleton]
    omega
  · show m.rowCount + e.newRows = m.body.rows.length + ((m.queue ++ [e]).map Edit.newRows).sum
    rw [indexed.rowCount]
    simp only [List.map_append, List.sum_append, List.map_cons, List.map_nil, List.sum_singleton]
    omega
  · show m.body.Admits (m.queue ++ [e])
    rw [Body.admits_concat, columns, rows]
    exact ⟨indexed.queue, within⟩
  · exact indexed.rows
  · exact indexed.values

theorem store (indexed : m.Indexed) (s : Solution) : (m.store s).Indexed := by
  refine ⟨indexed.columnCount, indexed.rowCount, indexed.queue, indexed.rows, ?_⟩
  intro v kept
  unfold Matrix.store at kept
  dsimp only at kept
  split at kept
  · cases kept
    exact m.body.fits_values s
  · cases kept

/-- An operation that queues one edit keeps the positions, if what it accepts is within. -/
theorem queues {α : Type} {op : MatrixM α} {accepts : Matrix → Prop} {value : Matrix → α} {e : Edit}
    {columns rows : Nat} (indexed : m.Indexed) (queues : Queues op accepts value e columns rows)
    (fits : accepts m → e.Within m.columnCount m.rowCount ∧
      m.grown e columns rows = m.extended e) : (final (op m)).Indexed := by
  cases result : op m with
  | ok a n =>
    obtain ⟨accepted, -, rfl⟩ := queues.ok_iff.1 result
    obtain ⟨within, adds⟩ := fits accepted
    show (m.grown e columns rows).Indexed
    rw [adds]
    exact indexed.extended within
  | error cause n =>
    show n.Indexed
    rw [queues.harmless.of_error result]
    exact indexed

theorem step (indexed : m.Indexed) (step : Step m n) : n.Indexed := by
  cases step with
  | addColumns lowers uppers objectives domains names =>
    refine indexed.queues (queues_addColumns lowers uppers objectives domains names) ?_
    rintro ⟨lengths, -⟩
    have same := length_eq_of_check lengths
    exact ⟨trivial, (extended_addColumns same objectives domains names).symm⟩
  | addColumn column memberships =>
    exact indexed.queues (queues_addColumn column memberships) fun within => ⟨within, rfl⟩
  | addRow terms relation rhs name =>
    exact indexed.queues (queues_addRow terms relation rhs name) fun within => ⟨within, rfl⟩
  | setObjective terms constant sense =>
    exact indexed.queues (queues_setObjective terms constant sense) fun within => ⟨within, rfl⟩
  | changeCoefficients rows columns values =>
    refine indexed.queues (queues_changeCoefficients rows columns values) ?_
    rintro ⟨-, -, within⟩
    exact ⟨within, rfl⟩
  | setRhs row rhs => exact indexed.queues (queues_setRhs row rhs) fun within => ⟨within, rfl⟩
  | setObjectiveCoefficient column coefficient =>
    exact indexed.queues (queues_setObjectiveCoefficient column coefficient) fun within =>
      ⟨within, rfl⟩
  | setDomain column domain =>
    exact indexed.queues (queues_setDomain column domain) fun within => ⟨within, rfl⟩
  | setColumnName column name =>
    exact indexed.queues (queues_setColumnName column name) fun within => ⟨within, rfl⟩
  | setRowName row name =>
    exact indexed.queues (queues_setRowName row name) fun within => ⟨within, rfl⟩
  | flush => exact indexed.flush
  | optimize solver params host =>
    unfold Matrix.optimize
    dsimp only
    cases solver.run (m.flush.body.problem m.flush.name) params host with
    | ok solution host => exact indexed.flush.store solution
    | error cause host => exact indexed.flush
  | writeTo disk path =>
    cases result : writeTo disk path m with
    | ok after n =>
      obtain ⟨-, rfl, -⟩ := writeTo_ok_iff.1 result
      exact indexed.flush
    | error cause n =>
      rcases writeTo_error result with rfl | rfl
      · exact indexed
      · exact indexed.flush

theorem ofDocument (d : Lp.Document) : (ofDocument d).Indexed :=
  ⟨rfl, rfl, trivial, (sound_ofDocument d).within, nofun⟩

theorem length_columnAttribute (indexed : m.Indexed) {what : ColumnAttribute} {xs : List Float}
    (available : m.columnAttribute? what = some xs) : xs.length = m.body.columns.length := by
  cases what with
  | value =>
    obtain ⟨v, kept, rfl⟩ := Option.map_eq_some_iff.1 available
    exact (indexed.values v kept).columns
  | reducedCost =>
    obtain ⟨v, kept, reported⟩ := Option.bind_eq_some_iff.1 available
    exact (indexed.values v kept).reducedCosts xs reported
  | lower | upper | objective =>
    cases available
    exact List.length_map ..

theorem length_rowAttribute (indexed : m.Indexed) {what : RowAttribute} {xs : List Float}
    (available : m.rowAttribute? what = some xs) : xs.length = m.body.rows.length := by
  cases what with
  | dual =>
    obtain ⟨v, kept, reported⟩ := Option.bind_eq_some_iff.1 available
    exact (indexed.values v kept).duals xs reported
  | slack =>
    obtain ⟨v, kept, rfl⟩ := Option.map_eq_some_iff.1 available
    exact (indexed.values v kept).slacks
  | rhs =>
    cases available
    exact List.length_map ..

theorem columnAttribute_eq (indexed : m.Indexed) (what : ColumnAttribute) (columns : List Nat) :
    Checked.columnAttribute m what columns = some (m.columnAttribute what columns) := by
  unfold Checked.columnAttribute Matrix.columnAttribute
  cases available : m.columnAttribute? what with
  | none => rfl
  | some xs => exact Checked.pick_eq (indexed.length_columnAttribute available) _ _

theorem rowAttribute_eq (indexed : m.Indexed) (what : RowAttribute) (rows : List Nat) :
    Checked.rowAttribute m what rows = some (m.rowAttribute what rows) := by
  unfold Checked.rowAttribute Matrix.rowAttribute
  cases available : m.rowAttribute? what with
  | none => rfl
  | some xs => exact Checked.pick_eq (indexed.length_rowAttribute available) _ _

end Indexed

theorem Attained.indexed (attained : m.Attained) : m.Indexed := by
  induction attained with
  | empty name => exact ⟨rfl, rfl, trivial, nofun, nofun⟩
  | readFrom read =>
    obtain ⟨-, text, d, -, -, rfl⟩ := readFrom_ok_iff.1 read
    exact .ofDocument d
  | step _ step ih => exact ih.step step
  | solved s _ ih => exact ih.flush.store s

/-- Carrying out the queue, writing the body, putting a solution back into it and reading attributes
find every position, flushed or not and for any arguments. -/
theorem accesses_within (attained : m.Attained) :
    m.Indexed ∧ Checked.applyAll m.body m.queue = some m.flush.body ∧
      m.body.Accessible ∧ m.flush.body.Accessible ∧
      (∀ what columns,
        Checked.columnAttribute m what columns = some (m.columnAttribute what columns)) ∧
      ∀ what rows, Checked.rowAttribute m what rows = some (m.rowAttribute what rows) := by
  have indexed := attained.indexed
  refine ⟨indexed, ?_, indexed.linked.accessible, indexed.flush.linked.accessible,
    indexed.columnAttribute_eq, indexed.rowAttribute_eq⟩
  rw [body_flush]
  exact Checked.applyAll_eq indexed.queue

/-- A solved matrix with an edit in its queue. -/
def solvedThenEdited : Matrix :=
  let columns := final (addColumns [0, 0] [4, 5] none none none (empty "m"))
  let rows := final (addRow [(0, 1), (1, 2)] .le 4 none columns)
  let solved := rows.flush.store ⟨.optimal, .ofList [("x1", 2)], .empty, .empty⟩
  final (setRhs 0 5 solved)

theorem accesses_within_solvedThenEdited :
    solvedThenEdited.Attained ∧ solvedThenEdited.queue = [.setRhs 0 5] ∧
      solvedThenEdited.columnCount = 2 ∧
      Checked.applyAll solvedThenEdited.body [.setRhs 0 5] = some solvedThenEdited.flush.body ∧
      Checked.columnAttribute solvedThenEdited .value [1] = some (.ok [2]) ∧
      Checked.rowAttribute solvedThenEdited .slack [0, 1] =
        some (.error (.indexOutOfRange .row 1 1)) := by
  have attained : solvedThenEdited.Attained := by
    unfold solvedThenEdited
    exact ((((Attained.empty "m").step (.addColumns ..)).step (.addRow ..)).solved _).step
      (.setRhs ..)
  have queue : solvedThenEdited.queue = [.setRhs 0 5] := by decide +kernel
  have value : solvedThenEdited.columnAttribute .value [1] = .ok [2] := by decide +kernel
  have slack : solvedThenEdited.rowAttribute .slack [0, 1] =
      .error (.indexOutOfRange .row 1 1) := by decide +kernel
  obtain ⟨-, applied, -, -, columns, rows⟩ := accesses_within attained
  rw [queue] at applied
  refine ⟨attained, queue, by decide +kernel, applied, ?_, ?_⟩
  · rw [columns, value]
  · rw [rows, slack]

end Matrix

end LinProg
