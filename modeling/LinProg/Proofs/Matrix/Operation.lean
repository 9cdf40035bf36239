import Mathlib
import LinProg.Matrix.Basic
import LinProg.Proofs.Operation

/-!
# What operations do to a matrix

An operation that succeeds has queued one edit and moved the counts, as `grown` says; one that fails
has done nothing.  Queueing and flushing commute: `flush_grown`.
-/

namespace LinProg.Matrix
open Operation

variable {m n : Matrix}

/-! ### Flushing -/

@[simp] theorem queue_flush (m : Matrix) : m.flush.queue = [] := by
  unfold flush
  split
  · rename_i none
    exact List.isEmpty_iff.1 none
  · rfl

@[simp] theorem name_flush (m : Matrix) : m.flush.name = m.name := by
  unfold flush
  split <;> rfl

@[simp] theorem columnCount_flush (m : Matrix) : m.flush.columnCount = m.columnCount := by
  unfold flush
  split <;> rfl

@[simp] theorem rowCount_flush (m : Matrix) : m.flush.rowCount = m.rowCount := by
  unfold flush
  split <;> rfl

theorem body_flush (m : Matrix) : m.flush.body = m.body.applyAll m.queue := by
  unfold flush
  split
  · rename_i none
    rw [List.isEmpty_iff.1 none]
    rfl
  · rfl

theorem flush_of_queue (empty : m.queue = []) : m.flush = m := by
  unfold flush
  rw [empty]
  rfl

@[simp] theorem flush_flush (m : Matrix) : m.flush.flush = m.flush := flush_of_queue (queue_flush m)

/-! ### Queueing -/

/-- The matrix with one more edit in its queue, which adds some columns and rows. -/
def grown (m : Matrix) (e : Edit) (columns rows : Nat) : Matrix :=
  { m with
    queue := m.queue ++ [e]
    columnCount := m.columnCount + columns
    rowCount := m.rowCount + rows }

theorem flush_grown (m : Matrix) (e : Edit) (columns rows : Nat) :
    (m.grown e columns rows).flush =
      { m with
        body := m.flush.body.apply e
        queue := []
        columnCount := m.columnCount + columns
        rowCount := m.rowCount + rows
        status := .loaded
        values := none } := by
  have pending : (m.queue ++ [e]).isEmpty = false := by
    cases m.queue <;> rfl
  unfold grown flush
  rw [if_neg (by simp), ← flush, body_flush]
  simp only [Body.applyAll, List.foldl_append, List.foldl_cons, List.foldl_nil]

/-- Two matrices that are the same once they are flushed. -/
def Agrees (m n : Matrix) : Prop := m.flush = n.flush

namespace Agrees

theorem name (h : m.Agrees n) : m.name = n.name := by
  simpa using congrArg Matrix.name h

theorem columnCount (h : m.Agrees n) : m.columnCount = n.columnCount := by
  simpa using congrArg Matrix.columnCount h

theorem rowCount (h : m.Agrees n) : m.rowCount = n.rowCount := by
  simpa using congrArg Matrix.rowCount h

theorem body (h : m.Agrees n) : m.flush.body = n.flush.body := congrArg Matrix.body h

theorem flushed (m : Matrix) : m.Agrees m.flush := (flush_flush m).symm

theorem eq (h : m.Agrees n) (left : m.queue = []) (right : n.queue = []) : m = n := by
  have same : m.flush = n.flush := h
  rwa [flush_of_queue left, flush_of_queue right] at same

theorem grown (h : m.Agrees n) (e : Edit) (columns rows : Nat) :
    (m.grown e columns rows).Agrees (n.grown e columns rows) := by
  unfold Agrees
  rw [flush_grown, flush_grown, h.body, h.columnCount, h.rowCount, h.name]

end Agrees

/-! ### Checks -/

section Checks

variable {u : Unit} {column row : Nat} {terms : List (Nat × Float)}

theorem keeps_checkColumn (column : Nat) : Keeps (checkColumn column) := .bind .get fun _ => .guard _

theorem keeps_checkRow (row : Nat) : Keeps (checkRow row) := .bind .get fun _ => .guard _

theorem keeps_checkTerms (terms : List (Nat × Float)) : Keeps (checkTerms terms) :=
  Keeps.forM (f := fun t : Nat × Float => checkColumn t.1) (fun t => keeps_checkColumn t.1) terms

theorem keeps_checkLengths (check : Except LengthMismatch Unit) : Keeps (checkLengths check) := by
  intro m
  cases check <;> rfl

theorem checkColumn_ok_iff : checkColumn column m = .ok u n ↔ m = n ∧ column < m.columnCount := by
  unfold checkColumn
  simp only [bind_ok_iff, get_ok_iff, guard_ok_iff]
  constructor
  · rintro ⟨_, _, ⟨rfl, rfl⟩, same, within⟩
    exact ⟨same, within⟩
  · rintro ⟨same, within⟩
    exact ⟨m, m, ⟨rfl, rfl⟩, same, within⟩

theorem checkRow_ok_iff : checkRow row m = .ok u n ↔ m = n ∧ row < m.rowCount := by
  unfold checkRow
  simp only [bind_ok_iff, get_ok_iff, guard_ok_iff]
  constructor
  · rintro ⟨_, _, ⟨rfl, rfl⟩, same, within⟩
    exact ⟨same, within⟩
  · rintro ⟨same, within⟩
    exact ⟨m, m, ⟨rfl, rfl⟩, same, within⟩

theorem checkTerms_ok_iff :
    checkTerms terms m = .ok u n ↔ m = n ∧ ∀ t ∈ terms, t.1 < m.columnCount := by
  unfold checkTerms
  rw [forM_ok_iff (f := fun t : Nat × Float => checkColumn t.1) fun t => keeps_checkColumn t.1]
  simp only [checkColumn_ok_iff, true_and]

theorem length_eq_of_check {what : String} {expected found : Nat}
    (h : LengthMismatch.check what expected found = .ok ⟨⟩) : expected = found := by
  unfold LengthMismatch.check at h
  split at h
  · assumption
  · cases h

theorem checkLengths_ok_iff {check : Except LengthMismatch Unit} :
    checkLengths check m = .ok u n ↔ m = n ∧ check = .ok ⟨⟩ := by
  cases check with
  | ok =>
    refine pure_ok_iff.trans ⟨fun h => ⟨h.2, rfl⟩, fun h => ⟨rfl, h.1⟩⟩
  | error cause => exact iff_of_false (fun h => nomatch h) fun h => nomatch h.2

end Checks

/-! ### Edits -/

theorem push_ok_iff {e : Edit} {u : Unit} : push e m = .ok u n ↔ n = m.grown e 0 0 :=
  modify_ok_iff.trans eq_comm

/-- The operation queues one edit if a condition holds, and otherwise fails and does nothing. -/
structure Queues {α : Type} (op : MatrixM α) (accepts : Matrix → Prop) (value : Matrix → α)
    (e : Edit) (columns rows : Nat) : Prop where
  ok_iff : ∀ {m n a}, op m = .ok a n ↔ accepts m ∧ a = value m ∧ n = m.grown e columns rows
  harmless : Harmless op

section Edits

theorem length_columnsOf {lowers uppers : List Float} (lengths : lowers.length = uppers.length)
    (objectives : Option (List Float)) (domains : Option (List Domain))
    (names : Option (List (Option String))) :
    (columnsOf lowers uppers objectives domains names).length = lowers.length := by
  unfold columnsOf
  rw [List.length_mapIdx, List.length_zip, ← lengths, Nat.min_self]

theorem queues_addColumns (lowers uppers : List Float) (objectives : Option (List Float))
    (domains : Option (List Domain)) (names : Option (List (Option String))) :
    Queues (addColumns lowers uppers objectives domains names)
      (fun _ => LengthMismatch.check "upper bounds" lowers.length uppers.length = .ok ⟨⟩ ∧
        LengthMismatch.checkOption "objective coefficients" lowers.length objectives = .ok ⟨⟩ ∧
        LengthMismatch.checkOption "types" lowers.length domains = .ok ⟨⟩ ∧
        LengthMismatch.checkOption "names" lowers.length names = .ok ⟨⟩)
      (·.columnCount) (.addColumns (columnsOf lowers uppers objectives domains names))
      lowers.length 0 where
  ok_iff := by
    intro m n a
    unfold addColumns
    simp only [bind_ok_iff, checkLengths_ok_iff, get_ok_iff, push_ok_iff, modify_ok_iff,
      pure_ok_iff]
    constructor
    · rintro ⟨_, _, ⟨rfl, u⟩, _, _, ⟨rfl, o⟩, _, _, ⟨rfl, d⟩, _, _, ⟨rfl, s⟩, _, _, ⟨rfl, rfl⟩,
        _, _, rfl, _, _, rfl, rfl, rfl⟩
      exact ⟨⟨u, o, d, s⟩, rfl, rfl⟩
    · rintro ⟨⟨u, o, d, s⟩, rfl, rfl⟩
      exact ⟨⟨⟩, m, ⟨rfl, u⟩, ⟨⟩, m, ⟨rfl, o⟩, ⟨⟩, m, ⟨rfl, d⟩, ⟨⟩, m, ⟨rfl, s⟩, m, m, ⟨rfl, rfl⟩,
        ⟨⟩, _, rfl, ⟨⟩, _, rfl, rfl, rfl⟩
  harmless := by
    refine (keeps_checkLengths _).bind_harmless fun _ => ?_
    refine (keeps_checkLengths _).bind_harmless fun _ => ?_
    refine (keeps_checkLengths _).bind_harmless fun _ => ?_
    refine (keeps_checkLengths _).bind_harmless fun _ => Succeeds.harmless ?_
    exact .bind .get fun _ => .bind (.modify _) fun _ => .bind (.modify _) fun _ => .pure _

theorem queues_addColumn (column : MatrixColumn) (memberships : List (Nat × Float)) :
    Queues (addColumn column memberships) (fun m => ∀ t ∈ memberships, t.1 < m.rowCount)
      (·.columnCount) (.addColumn column memberships) 1 0 where
  ok_iff := by
    intro m n a
    unfold addColumn
    rw [bind_ok_iff]
    simp only [forM_ok_iff (f := fun t : Nat × Float => checkRow t.1) fun t => keeps_checkRow t.1,
      checkRow_ok_iff, bind_ok_iff, get_ok_iff, push_ok_iff, modify_ok_iff, pure_ok_iff, true_and]
    constructor
    · rintro ⟨_, _, ⟨rfl, within⟩, _, _, ⟨rfl, rfl⟩, _, _, rfl, _, _, rfl, rfl, rfl⟩
      exact ⟨within, rfl, rfl⟩
    · rintro ⟨within, rfl, rfl⟩
      exact ⟨⟨⟩, m, ⟨rfl, within⟩, m, m, ⟨rfl, rfl⟩, ⟨⟩, _, rfl, ⟨⟩, _, rfl, rfl, rfl⟩
  harmless := by
    refine (Keeps.forM (f := fun t : Nat × Float => checkRow t.1) (fun t => keeps_checkRow t.1)
      memberships).bind_harmless fun _ => Succeeds.harmless ?_
    exact .bind .get fun _ => .bind (.modify _) fun _ => .bind (.modify _) fun _ => .pure _

theorem queues_addRow (terms : List (Nat × Float)) (relation : Relation) (rhs : Float)
    (name : Option String) :
    Queues (addRow terms relation rhs name) (fun m => ∀ t ∈ terms, t.1 < m.columnCount)
      (·.rowCount) (.addRow ⟨terms, relation, rhs, name⟩) 0 1 where
  ok_iff := by
    intro m n a
    unfold addRow
    simp only [bind_ok_iff, checkTerms_ok_iff, get_ok_iff, push_ok_iff, modify_ok_iff, pure_ok_iff]
    constructor
    · rintro ⟨_, _, ⟨rfl, within⟩, _, _, ⟨rfl, rfl⟩, _, _, rfl, _, _, rfl, rfl, rfl⟩
      exact ⟨within, rfl, rfl⟩
    · rintro ⟨within, rfl, rfl⟩
      exact ⟨⟨⟩, m, ⟨rfl, within⟩, m, m, ⟨rfl, rfl⟩, ⟨⟩, _, rfl, ⟨⟩, _, rfl, rfl, rfl⟩
  harmless := by
    refine (keeps_checkTerms terms).bind_harmless fun _ => Succeeds.harmless ?_
    exact .bind .get fun _ => .bind (.modify _) fun _ => .bind (.modify _) fun _ => .pure _

/-- An edit behind a check that leaves the matrix as it is. -/
theorem queues_push {check : MatrixM Unit} {accepts : Matrix → Prop} (keeps : Keeps check)
    (ok_iff : ∀ {m n u}, check m = .ok u n ↔ m = n ∧ accepts m) (e : Edit) :
    Queues (do check; push e) accepts (fun _ => ⟨⟩) e 0 0 where
  ok_iff := by
    intro m n a
    simp only [bind_ok_iff, ok_iff, push_ok_iff]
    constructor
    · rintro ⟨_, _, ⟨rfl, accepted⟩, rfl⟩
      exact ⟨accepted, trivial, rfl⟩
    · rintro ⟨accepted, -, same⟩
      exact ⟨⟨⟩, m, ⟨rfl, accepted⟩, same⟩
  harmless := keeps.bind_harmless fun _ => Succeeds.harmless (.modify _)

theorem queues_setObjective (terms : List (Nat × Float)) (constant : Float) (sense : Sense) :
    Queues (setObjective terms constant sense) (fun m => ∀ t ∈ terms, t.1 < m.columnCount)
      (fun _ => ⟨⟩) (.setObjective terms constant sense) 0 0 :=
  queues_push (keeps_checkTerms terms) checkTerms_ok_iff _

theorem queues_setRhs (row : Nat) (value : Float) :
    Queues (setRhs row value) (row < ·.rowCount) (fun _ => ⟨⟩) (.setRhs row value) 0 0 :=
  queues_push (keeps_checkRow row) checkRow_ok_iff _

theorem queues_setObjectiveCoefficient (column : Nat) (value : Float) :
    Queues (setObjectiveCoefficient column value) (column < ·.columnCount) (fun _ => ⟨⟩)
      (.setObjectiveCoefficient column value) 0 0 :=
  queues_push (keeps_checkColumn column) checkColumn_ok_iff _

theorem queues_setDomain (column : Nat) (domain : Domain) :
    Queues (setDomain column domain) (column < ·.columnCount) (fun _ => ⟨⟩)
      (.setDomain column domain) 0 0 :=
  queues_push (keeps_checkColumn column) checkColumn_ok_iff _

theorem queues_setColumnName (column : Nat) (name : String) :
    Queues (setColumnName column name) (column < ·.columnCount) (fun _ => ⟨⟩)
      (.setColumnName column name) 0 0 :=
  queues_push (keeps_checkColumn column) checkColumn_ok_iff _

theorem queues_setRowName (row : Nat) (name : String) :
    Queues (setRowName row name) (row < ·.rowCount) (fun _ => ⟨⟩) (.setRowName row name) 0 0 :=
  queues_push (keeps_checkRow row) checkRow_ok_iff _

theorem keeps_checkEntry (t : Nat × Nat × Float) :
    Keeps (do checkRow t.1; checkColumn t.2.1 : MatrixM Unit) :=
  .bind (keeps_checkRow _) fun _ => keeps_checkColumn _

theorem checkEntry_ok_iff {t : Nat × Nat × Float} {u : Unit} :
    (do checkRow t.1; checkColumn t.2.1 : MatrixM Unit) m = .ok u n ↔
      m = n ∧ t.1 < m.rowCount ∧ t.2.1 < m.columnCount := by
  simp only [bind_ok_iff, checkRow_ok_iff, checkColumn_ok_iff]
  constructor
  · rintro ⟨_, _, ⟨rfl, row⟩, rfl, column⟩
    exact ⟨rfl, row, column⟩
  · rintro ⟨rfl, row, column⟩
    exact ⟨⟨⟩, m, ⟨rfl, row⟩, rfl, column⟩

theorem checkEntries_ok_iff {batch : List (Nat × Nat × Float)} {u : PUnit} :
    (batch.forM fun (row, column, _) => (do checkRow row; checkColumn column : MatrixM Unit)) m =
        .ok u n ↔
      m = n ∧ ∀ t ∈ batch, t.1 < m.rowCount ∧ t.2.1 < m.columnCount := by
  refine (forM_ok_iff keeps_checkEntry).trans ?_
  simp only [checkEntry_ok_iff, true_and]

theorem queues_changeCoefficients (rows columns : List Nat) (values : List Float) :
    Queues (changeCoefficients rows columns values)
      (fun m => LengthMismatch.check "columns" rows.length columns.length = .ok ⟨⟩ ∧
        LengthMismatch.check "values" rows.length values.length = .ok ⟨⟩ ∧
        ∀ t ∈ rows.zip (columns.zip values), t.1 < m.rowCount ∧ t.2.1 < m.columnCount)
      (fun _ => ⟨⟩) (.changeCoefficients (rows.zip (columns.zip values))) 0 0 where
  ok_iff := by
    intro m n a
    unfold changeCoefficients
    rw [bind_ok_iff]
    simp only [checkLengths_ok_iff, bind_ok_iff (f := checkLengths _), bind_ok_iff
      (f := List.forM _ _), checkEntries_ok_iff, push_ok_iff]
    constructor
    · rintro ⟨_, _, ⟨rfl, c⟩, _, _, ⟨rfl, v⟩, _, _, ⟨rfl, within⟩, rfl⟩
      exact ⟨⟨c, v, within⟩, trivial, rfl⟩
    · rintro ⟨⟨c, v, within⟩, -, rfl⟩
      exact ⟨⟨⟩, m, ⟨rfl, c⟩, ⟨⟩, m, ⟨rfl, v⟩, ⟨⟩, m, ⟨rfl, within⟩, rfl⟩
  harmless := by
    refine (keeps_checkLengths _).bind_harmless fun _ => ?_
    refine (keeps_checkLengths _).bind_harmless fun _ => ?_
    refine (Keeps.forM keeps_checkEntry _).bind_harmless fun _ => Succeeds.harmless ?_
    exact .modify _

end Edits

/-! ### Operations on matrices that agree -/

section Agreeing

theorem lockstep_flushM : Lockstep Agrees (· = ·) flushM := .change fun _ _ agree => agree

theorem lockstep_push (e : Edit) : Lockstep Agrees Agrees (push e) :=
  .change fun _ _ agree => agree.grown e 0 0

theorem flush_counts (m : Matrix) (columns rows : Nat) :
    { m with columnCount := columns, rowCount := rows }.flush =
      { m.flush with columnCount := columns, rowCount := rows } := by
  unfold flush
  split <;> rfl

theorem Agrees.counts (agree : m.Agrees n) (columns rows : Nat) :
    { m with columnCount := columns, rowCount := rows }.Agrees
      { n with columnCount := columns, rowCount := rows } := by
  have same : m.flush = n.flush := agree
  refine (flush_counts m columns rows).trans ?_
  rw [same]
  exact (flush_counts n columns rows).symm

theorem lockstep_checkColumn (column : Nat) : Lockstep Agrees Agrees (checkColumn column) := by
  refine .get_bind fun s t agree => ?_
  rw [agree.columnCount]
  split
  · exact ⟨rfl, agree⟩
  · exact ⟨rfl, agree⟩

theorem lockstep_checkRow (row : Nat) : Lockstep Agrees Agrees (checkRow row) := by
  refine .get_bind fun s t agree => ?_
  rw [agree.rowCount]
  split
  · exact ⟨rfl, agree⟩
  · exact ⟨rfl, agree⟩

theorem lockstep_checkTerms (terms : List (Nat × Float)) :
    Lockstep Agrees Agrees (checkTerms terms) :=
  Lockstep.forM (f := fun t : Nat × Float => checkColumn t.1) (fun t => lockstep_checkColumn t.1)
    terms

theorem lockstep_checkLengths (check : Except LengthMismatch Unit) :
    Lockstep Agrees Agrees (checkLengths check) := by
  cases check with
  | ok => exact .pure _
  | error cause => exact .throw _

theorem lockstep_addColumns (lowers uppers : List Float) (objectives : Option (List Float))
    (domains : Option (List Domain)) (names : Option (List (Option String))) :
    Lockstep Agrees Agrees (addColumns lowers uppers objectives domains names) := by
  refine .bind (lockstep_checkLengths _) fun _ => ?_
  refine .bind (lockstep_checkLengths _) fun _ => ?_
  refine .bind (lockstep_checkLengths _) fun _ => ?_
  refine .bind (lockstep_checkLengths _) fun _ => .get_bind fun s t agree => ?_
  rw [agree.columnCount]
  refine Lockstep.bind (lockstep_push _) (fun _ => ?_) s t agree
  refine .bind (.change fun m n agree => ?_) fun _ => .pure _
  rw [agree.columnCount, agree.rowCount]
  exact agree.counts _ _

theorem lockstep_addColumn (column : MatrixColumn) (memberships : List (Nat × Float)) :
    Lockstep Agrees Agrees (addColumn column memberships) := by
  refine .bind (Lockstep.forM (f := fun t : Nat × Float => checkRow t.1)
    (fun t => lockstep_checkRow t.1) memberships) fun _ => .get_bind fun s t agree => ?_
  rw [agree.columnCount]
  refine Lockstep.bind (lockstep_push _) (fun _ => ?_) s t agree
  refine .bind (.change fun m n agree => ?_) fun _ => .pure _
  rw [agree.columnCount, agree.rowCount]
  exact agree.counts _ _

theorem lockstep_addRow (terms : List (Nat × Float)) (relation : Relation) (rhs : Float)
    (name : Option String) : Lockstep Agrees Agrees (addRow terms relation rhs name) := by
  refine .bind (lockstep_checkTerms terms) fun _ => .get_bind fun s t agree => ?_
  rw [agree.rowCount]
  refine Lockstep.bind (lockstep_push _) (fun _ => ?_) s t agree
  refine .bind (.change fun m n agree => ?_) fun _ => .pure _
  rw [agree.columnCount, agree.rowCount]
  exact agree.counts _ _

theorem lockstep_setObjective (terms : List (Nat × Float)) (constant : Float) (sense : Sense) :
    Lockstep Agrees Agrees (setObjective terms constant sense) :=
  .bind (lockstep_checkTerms terms) fun _ => lockstep_push _

theorem lockstep_setObjectiveCoefficient (column : Nat) (value : Float) :
    Lockstep Agrees Agrees (setObjectiveCoefficient column value) :=
  .bind (lockstep_checkColumn column) fun _ => lockstep_push _

theorem lockstep_setDomain (column : Nat) (domain : Domain) :
    Lockstep Agrees Agrees (setDomain column domain) :=
  .bind (lockstep_checkColumn column) fun _ => lockstep_push _

theorem lockstep_setColumnName (column : Nat) (name : String) :
    Lockstep Agrees Agrees (setColumnName column name) :=
  .bind (lockstep_checkColumn column) fun _ => lockstep_push _

theorem lockstep_setRowName (row : Nat) (name : String) :
    Lockstep Agrees Agrees (setRowName row name) :=
  .bind (lockstep_checkRow row) fun _ => lockstep_push _

end Agreeing

end LinProg.Matrix
