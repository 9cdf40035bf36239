import Mathlib
import LinProg.Proofs.Matrix.Import
import LinProg.Proofs.Matrix.Reachable

/-!
# Matrices through model files

A matrix that operations lead to can be written to a model file and read back, if its numbers can:
the matrix read has the same columns and rows, under the names of the view.  Writing that matrix
gives the same file.
-/

namespace LinProg

/-- The same column but for its name, and up to the sign of a zero coefficient. -/
structure MatrixColumn.Same (c d : MatrixColumn) : Prop where
  lower : d.lower = c.lower
  upper : d.upper = c.upper
  domain : d.domain = c.domain
  objective : (d.objective == c.objective) = true

/-- The same row but for its name, with the same net coefficients. -/
structure MatrixRow.Same (r s : MatrixRow) : Prop where
  relation : s.relation = r.relation
  rhs : s.rhs = r.rhs
  net : ∀ j, ((netCoefficients s.entries).getD j == (netCoefficients r.entries).getD j) = true

namespace Body

variable {b : Body}

theorem forall₂_zipWith {α β γ : Type} {f : α → β → γ} {same : α → γ → Prop} {l : List α}
    {k : List β} (long : l.length ≤ k.length) (each : ∀ a ∈ l, ∀ b, same a (f a b)) :
    List.Forall₂ same l (List.zipWith f l k) := by
  induction l generalizing k with
  | nil => exact .nil
  | cons a l ih =>
    cases k with
    | nil => cases long
    | cons b k =>
      have rest := ih (Nat.le_of_succ_le_succ long) fun a member =>
        each a (List.mem_cons_of_mem _ member)
      exact .cons (each a List.mem_cons_self b) rest

theorem agrees_plainZero (x : Float) : Number.Agrees (plainZero x) x := by
  unfold plainZero
  split
  · exact .refl x
  · rename_i zero
    exact .inr ⟨rfl, by simpa [bne] using zero⟩

theorem same_columns_imported (portable : b.Portable) :
    List.Forall₂ MatrixColumn.Same b.columns b.imported.columns :=
  forall₂_zipWith (Nat.le_of_eq b.length_viewColumns.symm) fun c member _ =>
    { lower := rfl
      upper := rfl
      domain := rfl
      objective := (agrees_plainZero c.objective).beq (portable.objective c member) }

theorem same_rows_imported (portable : b.Portable) :
    List.Forall₂ MatrixRow.Same b.rows b.imported.rows :=
  forall₂_zipWith (Nat.le_of_eq b.length_viewRows.symm) fun r member _ =>
    { relation := rfl
      rhs := rfl
      net := fun j => (agrees_shownEntries _ r.entries j).beq (portable.net r member j) }

theorem map_name_imported (b : Body) :
    b.imported.columns.map (·.name) = b.viewNames.columns.map some ∧
      b.imported.rows.map (·.name) = b.viewNames.rows.map some := by
  constructor
  · refine map_zipWith_right ?_ (Nat.le_of_eq b.length_viewColumns)
    exact fun _ _ => rfl
  · refine map_zipWith_right ?_ (Nat.le_of_eq b.length_viewRows)
    exact fun _ _ => rfl

end Body

namespace Matrix
open Operation

variable {m n k : Matrix} {disk after : Disk} {path : String}

/-- The second matrix has what the first has once it is flushed, under the names of the view, and
nothing waits in its queue.  It has no objective constant. -/
structure Reproduces (m n : Matrix) : Prop where
  columnCount : n.columnCount = m.columnCount
  rowCount : n.rowCount = m.rowCount
  flushed : n.queue = []
  columns : List.Forall₂ MatrixColumn.Same m.flush.body.columns n.body.columns
  columnNames : n.body.columns.map (·.name) = m.flush.body.viewNames.columns.map some
  rows : List.Forall₂ MatrixRow.Same m.flush.body.rows n.body.rows
  rowNames : n.body.rows.map (·.name) = m.flush.body.viewNames.rows.map some
  sense : n.body.sense = m.flush.body.sense
  constant : n.body.constant = 0

/-- The matrix that a model file with a given body says. -/
def reread (m : Matrix) : Matrix := ofDocument (m.flush.body.problem m.flush.name).document

theorem body_reread (sound : m.Sound) (portable : m.flush.body.Portable) :
    m.reread.body = m.flush.body.imported := Body.bodyOf_document sound portable _

theorem name_reread (m : Matrix) : m.reread.name = Body.problemName m.name := by
  show (if Body.problemName m.flush.name = "" then defaultName else Body.problemName m.flush.name) = _
  rw [if_neg (Body.stemChars_problemName _).1, name_flush]

theorem reproduces_reread (sound : m.Sound) (portable : m.flush.body.Portable) :
    m.Reproduces m.reread := by
  have body := body_reread sound portable
  have columns : m.reread.columnCount = m.columnCount := by
    show m.reread.body.columns.length = _
    rw [body, Body.length_columns_imported]
    exact sound.columnCount
  have rows : m.reread.rowCount = m.rowCount := by
    show m.reread.body.rows.length = _
    rw [body, Body.length_rows_imported]
    exact sound.rowCount
  obtain ⟨columnNames, rowNames⟩ := m.flush.body.map_name_imported
  constructor
  · exact columns
  · exact rows
  · rfl
  · rw [body]
    exact Body.same_columns_imported portable
  · rw [body]
    exact columnNames
  · rw [body]
    exact Body.same_rows_imported portable
  · rw [body]
    exact rowNames
  · rw [body]
    rfl
  · rw [body]
    rfl

theorem readFrom_written (sound : m.Sound) (portable : m.flush.body.Portable)
    (written : writeTo disk path m = .ok after k) : readFrom after path = .ok m.reread := by
  obtain ⟨file, -, write⟩ := writeTo_ok_iff.1 written
  have text := Disk.readText_write write
  have read := Problem.read_text (Body.writable_problem sound portable m.flush.name)
  exact readFrom_ok_iff.2 ⟨file, _, _, text, read, rfl⟩

theorem writeTo_reread (sound : m.Sound) (portable : m.flush.body.Portable)
    (written : writeTo disk path m = .ok after k) :
    writeTo disk path m.reread = .ok after m.reread := by
  obtain ⟨file, -, write⟩ := writeTo_ok_iff.1 written
  have flushed : m.reread.flush = m.reread := flush_of_queue rfl
  rw [writeTo_ok_iff, flushed, name_reread, body_reread sound portable, ← name_flush m,
    Body.text_imported]
  exact ⟨file, rfl, write⟩

theorem writeTo_again (written : writeTo disk path m = .ok after k) :
    writeTo after path m = .ok after k := by
  obtain ⟨file, flushed, write⟩ := writeTo_ok_iff.1 written
  exact writeTo_ok_iff.2 ⟨file, flushed, Disk.write_write write⟩

/-- Writing a matrix and reading the file reproduces it, and the matrix that was read is written as
the same file, to any place that the first matrix can be written to. -/
theorem import_of_export (reach : m.Reachable) (portable : m.flush.body.Portable)
    (written : writeTo disk path m = .ok after k) :
    ∃ n, readFrom after path = .ok n ∧ m.Reproduces n ∧ writeTo after path n = .ok after n ∧
      ∀ disk' path' after' k', writeTo disk' path' m = .ok after' k' →
        writeTo disk' path' n = .ok after' n := by
  have sound := reach.sound
  refine ⟨m.reread, readFrom_written sound portable written, reproduces_reread sound portable,
    writeTo_reread sound portable (writeTo_again written), fun _ _ _ _ written' => ?_⟩
  exact writeTo_reread sound portable written'

/-- A matrix whose names a model file cannot hold as they are, with edits in its queue. -/
def oddNames : Matrix :=
  let named := final (addColumns [0, 0, -Number.infinity] [10, 1, Number.infinity]
    (some [1, -0.0, 2.5]) (some [.integer, .binary, .continuous])
    (some [some "end", some "end", none]) (empty "é"))
  final (addRow [(0, 2), (2, 0), (0, 0.5)] .le (-4) (some "1st row") named)

theorem portable_oddNames : oddNames.flush.body.Portable := by
  have rows : oddNames.flush.body.rows =
      [⟨[(0, 2), (2, 0), (0, 0.5)], .le, -4, some "1st row"⟩] := by decide +kernel
  have net (j : Nat) : ((netCoefficients [(0, (2 : Float)), (2, 0), (0, 0.5)]).getD j).isNaN =
      false := by
    unfold netCoefficients
    rw [Sparse.getD_accumulateList]
    match j with
    | 0 => decide +kernel
    | 1 => decide +kernel
    | 2 => decide +kernel
    | j + 3 =>
      rw [valuesAt_eq_nil (by simp)]
      rfl
  refine ⟨by decide +kernel, by decide +kernel, ?_, by decide +kernel, by decide +kernel,
    by decide +kernel, by decide +kernel⟩
  rw [rows]
  intro r member
  cases List.mem_singleton.1 member
  exact net

theorem import_of_export_oddNames :
    oddNames.Reachable ∧ oddNames.flush.body.Portable ∧
      ∃ after k n, writeTo .empty "odd.lp" oddNames = .ok after k ∧
        readFrom after "odd.lp" = .ok n ∧ n.columnCount = 3 ∧ n.rowCount = 1 ∧
        n.body.columns.map (·.name) = [some "vend", some "vend2", some "x2"] ∧
        n.body.rows.map (·.name) = [some "v1strow"] ∧ writeTo after "odd.lp" n = .ok after n := by
  have reach : oddNames.Reachable := by
    unfold oddNames
    exact ((Reachable.empty "é").step (.addColumns ..)).step (.addRow ..)
  obtain ⟨after, written⟩ : ∃ after, writeTo .empty "odd.lp" oddNames = .ok after oddNames.flush :=
    ⟨_, writeTo_ok_iff.2 ⟨by decide +kernel, rfl, rfl⟩⟩
  obtain ⟨n, read, same, again, -⟩ := import_of_export reach portable_oddNames written
  have names : oddNames.flush.body.viewNames = ⟨["vend", "vend2", "x2"], ["v1strow"]⟩ := by
    decide +kernel
  refine ⟨reach, portable_oddNames, after, _, n, written, read, ?_, ?_, ?_, ?_, again⟩
  · exact same.columnCount
  · exact same.rowCount
  · rw [same.columnNames, names]
    rfl
  · rw [same.rowNames, names]
    rfl

end Matrix

end LinProg
