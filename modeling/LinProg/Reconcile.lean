import LinProg.Sparse

/-!
# Reconciling a row

An installed row may list a column several times.  `RowDelta.between` covers the columns of the
installed row and of the desired entries, with the coefficient each column has to get.
-/

namespace LinProg

def netCoefficients (entries : List (Nat × Float)) : Sparse Nat := .accumulateList entries

/-- The coefficients to set on one row. -/
structure RowDelta where
  target : Sparse Nat
  isNoop : Bool

namespace RowDelta

def columns (d : RowDelta) : List Nat := d.target.keys

def values (d : RowDelta) : List Float := d.target.toList.map (·.2)

/-- Takes an installed row to the desired entries: installed columns start from zero and the
desired coefficients accumulate on top.  It is a no-op if every net coefficient is there already. -/
def between (installed desired : List (Nat × Float)) : RowDelta :=
  let old := netCoefficients installed
  let target := desired.foldl (fun s e => s.accumulate e.1 e.2) (old.map fun _ => 0)
  ⟨target, target.toList.all fun (column, value) =>
    match old.get? column with
    | some x => x == value
    | none => false⟩

end RowDelta

end LinProg
