import Mathlib
import LinProg.Proofs.Matrix.Growth

/-!
# Edits on their way

An edit waits in the queue of a matrix until a flush carries it out.  `Carries` says which edits a change
of the matrix puts into the queue, and which ones it carries out; the others keep their order.
-/

namespace LinProg.Matrix

variable {m n : Matrix} {queued carried : List Edit} {e : Edit}

/-- Some edits are queued, and edits from the front of the queue are carried out.  What a solve left stays
if none are. -/
structure Carries (m : Matrix) (queued carried : List Edit) (n : Matrix) : Prop where
  queue : m.queue ++ queued = carried ++ n.queue
  body : n.body = m.body.applyAll carried
  kept : carried = [] → n.status = m.status ∧ n.values = m.values
  dropped : carried ≠ [] → n.status = .loaded ∧ n.values = none

theorem applyAll_append (b : Body) (first second : List Edit) :
    b.applyAll (first ++ second) = (b.applyAll first).applyAll second := List.foldl_append

namespace Carries

theorem refl (m : Matrix) : m.Carries [] [] m := by
  refine ⟨List.append_nil _, rfl, fun _ => ⟨rfl, rfl⟩, ?_⟩
  intro some
  exact absurd rfl some

theorem flush (carries : m.Carries queued carried n) :
    m.Carries queued (carried ++ n.queue) n.flush := by
  obtain ⟨queue, body, kept, dropped⟩ := carries
  constructor
  · rw [queue_flush, List.append_nil]
    exact queue
  · rw [body_flush, body, applyAll_append]
  · intro none
    obtain ⟨before, waiting⟩ := List.append_eq_nil_iff.1 none
    rw [flush_of_queue waiting]
    exact kept before
  · intro some
    cases waiting : n.queue with
    | nil =>
      rw [waiting, List.append_nil] at some
      rw [flush_of_queue waiting]
      exact dropped some
    | cons first rest =>
      unfold Matrix.flush
      rw [waiting]
      exact ⟨rfl, rfl⟩

theorem grown (carries : m.Carries queued carried n) (e : Edit) (columns rows : Nat) :
    m.Carries (queued ++ [e]) carried (n.grown e columns rows) where
  queue := by
    show m.queue ++ (queued ++ [e]) = carried ++ (n.queue ++ [e])
    rw [← List.append_assoc, carries.queue, List.append_assoc]
  body := carries.body
  kept := carries.kept
  dropped := carries.dropped

theorem body_flush (carries : m.Carries queued carried n) :
    n.flush.body = m.flush.body.applyAll queued := by
  rw [Matrix.body_flush, Matrix.body_flush, carries.body, ← applyAll_append, ← applyAll_append,
    carries.queue]

end Carries

end LinProg.Matrix
