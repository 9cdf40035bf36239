import Mathlib
import LinProg.Column
import LinProg.Proofs.Sparse

/-!
# Composed columns

A column is composed of parts that are joined in any nesting.  Whatever the nesting, the last objective
part stays (`objective_column`), and each row has what its own parts add up to (`get?_column`).
-/

namespace LinProg

inductive Composition where
  | empty
  | objective (part : ObjectivePart)
  | row (ref : Ref) (c : Float)
  | and (left right : Composition)

namespace Composition

def column : Composition → Column
  | empty => .empty
  | objective part => .ofObjective part
  | row ref c => .ofRow ref c
  | and left right => left.column.and right.column

/-- The objective parts, from left to right. -/
def objectives : Composition → List ObjectivePart
  | empty | row .. => []
  | objective part => [part]
  | and left right => left.objectives ++ right.objectives

/-- The rows that have a part. -/
def named : Composition → List Ref
  | empty | objective _ => []
  | row ref _ => [ref]
  | and left right => left.named ++ right.named

/-- What the parts for a row add up to, in their nesting. -/
def total (ref : Ref) : Composition → Float
  | empty | objective _ => 0
  | row other c => if other = ref then c else 0
  | and left right =>
    if ref ∈ right.named then left.total ref + right.total ref else left.total ref

theorem objective_column (c : Composition) : c.column.objective = c.objectives.getLast? := by
  induction c with
  | empty | objective | row => rfl
  | and left right ihLeft ihRight =>
    rw [objectives, List.getLast?_append, ← ihLeft, ← ihRight]
    exact Option.orElse_eq_or

theorem total_of_not_mem {c : Composition} {ref : Ref} (absent : ref ∉ c.named) :
    c.total ref = 0 := by
  induction c with
  | empty | objective => rfl
  | row other c =>
    rw [named, List.mem_singleton] at absent
    exact if_neg (Ne.symm absent)
  | and left right ihLeft ihRight =>
    rw [named, List.mem_append, not_or] at absent
    rw [total, if_neg absent.2, ihLeft absent.1]

theorem get?_column (c : Composition) (ref : Ref) :
    c.column.rows.get? ref = if ref ∈ c.named then some (c.total ref) else none := by
  induction c with
  | empty | objective => rfl
  | row other c =>
    show (Sparse.empty.set other c).get? ref = _
    rw [Sparse.get?_set, named, total]
    by_cases same : ref = other
    · simp [same]
    · have different : ref ∉ [other] := by simpa using same
      rw [if_neg same, if_neg different]
      rfl
  | and left right ihLeft ihRight =>
    have start : left.column.rows.getD ref = left.total ref := by
      unfold Sparse.getD
      rw [ihLeft]
      split
      · rfl
      · rename_i absent
        exact (total_of_not_mem absent).symm
    show (right.column.rows.toList.foldl (fun s t => s.accumulate t.1 t.2) left.column.rows).get?
      ref = _
    rw [Sparse.get?_foldl_accumulate, Sparse.valuesAt_toList, ihRight, start, ihLeft, total, named]
    by_cases inRight : ref ∈ right.named
    · simp [inRight]
    · simp [inRight]

theorem mem_rows_column {c : Composition} {ref : Ref} :
    (∃ x, (ref, x) ∈ c.column.rows.toList) ↔ ref ∈ c.named := by
  simp only [Sparse.mem_toList_iff, get?_column]
  by_cases listed : ref ∈ c.named <;> simp [listed]

end Composition

end LinProg
