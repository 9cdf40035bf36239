import Mathlib
import LinProg.Matrix.File
import LinProg.Proofs.Matrix.Operation

/-!
# What model files do

Writing flushes the matrix and leaves its text on the disk; reading takes a text from the disk and
makes the matrix that it describes.
-/

namespace LinProg.Matrix
open Operation

variable {m n : Matrix} {disk after : Disk} {path : String}

theorem writeTo_ok_iff :
    writeTo disk path m = .ok after n ↔
      isModelFile path = true ∧ n = m.flush ∧
        disk.write path (m.flush.body.problem m.flush.name).text.toUTF8 = .ok after := by
  unfold writeTo
  by_cases file : isModelFile path = true
  · rw [if_pos file]
    simp only [bind_ok_iff]
    constructor
    · rintro ⟨_, _, flush, _, _, read, h⟩
      cases flush
      cases read
      cases write : disk.write path (m.flush.body.problem m.flush.name).text.toUTF8 with
      | ok d =>
        rw [write] at h
        obtain ⟨rfl, rfl⟩ := pure_ok_iff.1 h
        exact ⟨file, rfl, rfl⟩
      | error cause =>
        rw [write] at h
        cases h
    · rintro ⟨-, rfl, write⟩
      refine ⟨⟨⟩, m.flush, rfl, m.flush, m.flush, rfl, ?_⟩
      rw [write]
      rfl
  · rw [if_neg file]
    exact iff_of_false (fun h => nomatch h) fun h => file h.1

/-- A failed write has flushed the matrix at most. -/
theorem writeTo_error {cause : MatrixError} (h : writeTo disk path m = .error cause n) :
    n = m ∨ n = m.flush := by
  unfold writeTo at h
  split at h
  · right
    rcases bind_error_iff.1 h with failed | ⟨_, _, flush, h⟩
    · cases failed
    cases flush
    rcases bind_error_iff.1 h with failed | ⟨_, _, read, h⟩
    · cases failed
    cases read
    cases write : disk.write path (m.flush.body.problem m.flush.name).text.toUTF8 with
    | ok d =>
      rw [write] at h
      cases h
    | error cause =>
      rw [write] at h
      cases h
      rfl
  · left
    exact ((Keeps.throw_bind _ _).harmless).of_error h

theorem readFrom_ok_iff :
    readFrom disk path = .ok m ↔
      isModelFile path = true ∧ ∃ text d, disk.readText path = .ok text ∧ Lp.read text = .ok d ∧
        m = ofDocument d := by
  unfold readFrom
  by_cases file : isModelFile path = true
  · rw [if_pos file]
    dsimp only
    cases content : disk.readText path with
    | error cause => exact iff_of_false (fun h => nomatch h) fun ⟨_, _, _, h, _⟩ => nomatch h
    | ok text =>
      dsimp only
      cases document : Lp.read text with
      | error cause =>
        refine iff_of_false (fun h => nomatch h) ?_
        rintro ⟨-, _, _, same, read, -⟩
        cases same
        rw [document] at read
        cases read
      | ok d =>
        constructor
        · intro h
          cases h
          exact ⟨file, text, d, rfl, document, rfl⟩
        · rintro ⟨-, _, _, same, read, rfl⟩
          cases same
          rw [document] at read
          cases read
          rfl
  · rw [if_neg file]
    exact iff_of_false (fun h => nomatch h) fun h => file h.1

end LinProg.Matrix
