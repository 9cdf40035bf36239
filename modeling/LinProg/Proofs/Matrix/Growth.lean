import Mathlib
import LinProg.Matrix.File
import LinProg.Matrix.Solve
import LinProg.Proofs.Matrix.Body
import LinProg.Proofs.Matrix.Operation

/-!
# Matrices that grow

`Extends P` says that a matrix comes from another by queueing edits with a property, and by flushing.
Growing keeps a matrix sound, and leaves the rows alone that all edits leave alone.
-/

namespace LinProg.Matrix

variable {m n k : Matrix} {P Q : Edit → Prop} {i : Nat}

/-- The flushed body has the columns and rows that the matrix counts. -/
def Sound (m : Matrix) : Prop := m.flush.body.Sound m.columnCount m.rowCount

theorem sound_empty (name : String) : (empty name).Sound := ⟨rfl, rfl, nofun⟩

theorem Sound.flush (sound : m.Sound) : m.flush.Sound := by
  unfold Sound
  rw [flush_flush, columnCount_flush, rowCount_flush]
  exact sound

def extended (m : Matrix) (e : Edit) : Matrix := m.grown e e.newColumns e.newRows

theorem extended_addColumns {lowers uppers : List Float} (lengths : lowers.length = uppers.length)
    (objectives : Option (List Float)) (domains : Option (List Domain))
    (names : Option (List (Option String))) :
    m.extended (.addColumns (columnsOf lowers uppers objectives domains names)) =
      m.grown (.addColumns (columnsOf lowers uppers objectives domains names)) lowers.length 0 :=
  congrArg (m.grown _ · 0) (length_columnsOf lengths objectives domains names)

theorem body_flush_extended (m : Matrix) (e : Edit) :
    (m.extended e).flush.body = m.flush.body.apply e := by
  unfold extended
  rw [flush_grown]

theorem Sound.extended (sound : m.Sound) {e : Edit} (fits : e.Fits m.columnCount) :
    (m.extended e).Sound := by
  unfold Sound
  rw [body_flush_extended]
  exact Body.sound_apply sound fits

/-- The second matrix comes from the first by queueing edits and by flushing. -/
inductive Extends (P : Edit → Prop) (m : Matrix) : Matrix → Prop where
  | refl : Extends P m m
  | flush {n : Matrix} : Extends P m n → Extends P m n.flush
  | edit {n : Matrix} {e : Edit} : Extends P m n → e.Fits n.columnCount → P e →
      Extends P m (n.extended e)

namespace Extends

theorem sound (grows : Extends P m n) (start : m.Sound) : n.Sound := by
  induction grows with
  | refl => exact start
  | flush _ ih => exact ih.flush
  | edit _ fits _ ih => exact ih.extended fits

theorem columnCount_le (grows : Extends P m n) : m.columnCount ≤ n.columnCount := by
  induction grows with
  | refl => exact Nat.le_refl _
  | flush _ ih => exact ih.trans_eq (columnCount_flush _).symm
  | edit _ _ _ ih => exact Nat.le_add_right_of_le ih

theorem rowCount_le (grows : Extends P m n) : m.rowCount ≤ n.rowCount := by
  induction grows with
  | refl => exact Nat.le_refl _
  | flush _ ih => exact ih.trans_eq (rowCount_flush _).symm
  | edit _ _ _ ih => exact Nat.le_add_right_of_le ih

theorem mono (weaker : ∀ e, P e → Q e) (grows : Extends P m n) : Extends Q m n := by
  induction grows with
  | refl => exact .refl
  | flush _ ih => exact ih.flush
  | edit _ fits holds ih => exact ih.edit fits (weaker _ holds)

theorem sameRow (grows : Extends (Edit.LeavesRow i) m n) :
    Body.SameRow i m.flush.body n.flush.body := by
  induction grows with
  | refl => exact .refl i _
  | flush _ ih =>
    rw [flush_flush]
    exact ih
  | edit _ _ leaves ih =>
    rw [body_flush_extended]
    exact ih.trans (Body.sameRow_apply leaves _)

end Extends

/-! ### Solved and imported matrices -/

/-- Solving flushes the matrix, and keeps what it has. -/
theorem flush_optimize (m : Matrix) (solver : Solver) (params : Params) (host : Host) :
    (m.optimize solver params host).2.1.flush.body = m.flush.body ∧
      (m.optimize solver params host).2.1.columnCount = m.columnCount ∧
      (m.optimize solver params host).2.1.rowCount = m.rowCount := by
  unfold optimize
  dsimp only
  cases solver.run (m.flush.body.problem m.flush.name) params host with
  | ok solution host =>
    have settled : (m.flush.store solution).flush = m.flush.store solution :=
      flush_of_queue (queue_flush m)
    exact ⟨(congrArg Matrix.body settled).trans rfl, columnCount_flush m, rowCount_flush m⟩
  | error cause host => simp

theorem sound_ofDocument (d : Lp.Document) : (ofDocument d).Sound := by
  refine ⟨rfl, rfl, ?_⟩
  show ∀ r ∈ (Body.addToObjective _ _).rows, ∀ t ∈ r.entries,
    t.1 < (Body.addToObjective _ _).columns.length
  rw [Body.rows_addToObjective, Body.length_columns_addToObjective]
  intro r member t listed
  obtain ⟨row, -, rfl⟩ := List.mem_map.1 member
  obtain ⟨⟨name, c⟩, -, found⟩ := List.mem_filterMap.1 listed
  obtain ⟨i, position, rfl⟩ := Option.map_eq_some_iff.1 found
  obtain ⟨within, -⟩ := List.findIdx?_eq_some_iff_getElem.1 position
  rw [List.length_map]
  exact within

end LinProg.Matrix
