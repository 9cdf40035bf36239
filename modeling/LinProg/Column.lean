import LinProg.Variable

/-!
# Columns

A column says what a new variable contributes to the objective and to rows that exist already.
-/

namespace LinProg

/-- A contribution to one particular objective of a model. -/
structure ObjectivePart where
  model : Nat
  generation : Nat
  coefficient : Float

/-- An objective contribution and coefficients in rows. -/
structure Column where
  objective : Option ObjectivePart
  rows : Sparse Ref

namespace Column

def empty : Column := ⟨none, .empty⟩

def ofObjective (part : ObjectivePart) : Column := ⟨some part, .empty⟩

def ofRow (row : Ref) (c : Float) : Column := ⟨none, Sparse.empty.set row c⟩

/-- Joins two columns: the later objective contribution wins, row coefficients accumulate. -/
def and (left right : Column) : Column where
  objective := right.objective <|> left.objective
  rows := right.rows.toList.foldl (fun s t => s.accumulate t.1 t.2) left.rows

end Column

end LinProg
