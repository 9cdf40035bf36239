import Mathlib
import LinProg.Matrix.View
import LinProg.Proofs.Lp.Written
import LinProg.Proofs.Matrix.Body
import LinProg.Proofs.NamePool

/-!
# The names under which a body is written

Every column and every row is written under a name of the LP format, and no two under the same one.  A
body whose columns and rows have the names of a view is written under these: `viewNames_eq`.  So the
problem of a body can be read back: `writable_problem`.
-/

namespace LinProg
open NamePool (IsStem)

/-! ### The name of the problem -/

namespace NamePool

theorem isPlain_of_isStemChar {c : Char} (h : isStemChar c = true) : Lp.isPlain c = true := by
  unfold isStemChar at h
  rcases Bool.or_eq_true_iff.1 h with letter | underscore
  · exact Lp.isPlain_of_isAlphanum letter
  · rw [eq_of_beq underscore]
    decide

end NamePool

/-- The names of a view are their own stems and differ from each other. -/
structure ViewNames.Unique (names : ViewNames) : Prop where
  columns : ∀ name ∈ names.columns, IsStem name.toList ∧ name ∉ ["obj"]
  rows : ∀ name ∈ names.rows, IsStem name.toList ∧ ¬(name ∈ names.columns ∨ name ∈ ["obj"])
  distinctColumns : names.columns.Nodup
  distinctRows : names.rows.Nodup

namespace Body

theorem stemChars_problemName (name : String) :
    problemName name ≠ "" ∧ ∀ c ∈ (problemName name).toList, NamePool.isStemChar c = true := by
  unfold problemName
  dsimp only
  split
  · have chars : "model".toList.all NamePool.isStemChar = true := rfl
    exact ⟨by decide, List.all_eq_true.1 chars⟩
  · rename_i some
    rw [String.toList_ofList]
    refine ⟨fun empty => some ?_, fun c listed => (List.mem_filter.1 listed).2⟩
    have lists := congrArg String.toList empty
    rwa [String.toList_ofList] at lists

theorem problemName_problemName (name : String) :
    problemName (problemName name) = problemName name := by
  obtain ⟨titled, chars⟩ := stemChars_problemName name
  have kept := List.filter_eq_self.2 chars
  rw [problemName, kept, String.ofList_toList]
  exact if_neg fun empty => titled (String.toList_eq_nil_iff.1 empty)

theorem isToken_problemName (name : String) : Lp.IsToken (problemName name).toList := by
  obtain ⟨titled, chars⟩ := stemChars_problemName name
  refine ⟨fun empty => titled (String.toList_eq_nil_iff.1 empty), fun c listed => ?_⟩
  exact NamePool.isPlain_of_isStemChar (chars c listed)

/-! ### Columns and rows -/

variable {b c : Body} {columns rows : Nat}

theorem length_viewColumns (b : Body) : b.viewNames.columns.length = b.columns.length :=
  (NamePool.length_claimAll _ _).trans List.length_mapIdx

theorem length_viewRows (b : Body) : b.viewNames.rows.length = b.rows.length :=
  (NamePool.length_claimAll _ _).trans List.length_mapIdx

theorem unique_viewNames (b : Body) : b.viewNames.Unique := by
  obtain ⟨columns, distinct⟩ :=
    NamePool.claimAll_spec (NamePool.empty.reserve "obj") b.wantedColumnNames
  obtain ⟨rows, distinct'⟩ := NamePool.claimAll_spec
    ((NamePool.empty.reserve "obj").claimAll b.wantedColumnNames).2 b.wantedRowNames
  refine ⟨columns, fun name listed => ?_, distinct, distinct'⟩
  obtain ⟨isStem, free⟩ := rows name listed
  rw [NamePool.mem_taken_claimAll] at free
  exact ⟨isStem, free⟩

/-- Columns and rows that ask for the names of a view get them. -/
theorem viewNames_eq (columns : c.wantedColumnNames = b.viewNames.columns)
    (rows : c.wantedRowNames = b.viewNames.rows) : c.viewNames = b.viewNames := by
  have unique := b.unique_viewNames
  have given : ((NamePool.empty.reserve "obj").claimAll c.wantedColumnNames).1 =
      b.viewNames.columns := by
    rw [columns]
    exact NamePool.claimAll_of_isStem unique.columns unique.distinctColumns
  have givenRows : ((((NamePool.empty.reserve "obj").claimAll c.wantedColumnNames).2).claimAll
      c.wantedRowNames).1 = b.viewNames.rows := by
    rw [rows]
    refine NamePool.claimAll_of_isStem (fun name listed => ?_) unique.distinctRows
    obtain ⟨isStem, free⟩ := unique.rows name listed
    rw [NamePool.mem_taken_claimAll, given]
    exact ⟨isStem, free⟩
  exact congrArg₂ ViewNames.mk given givenRows

/-! ### The problem of a body -/

/-- What a body needs for a model file to say the same. -/
structure Portable (b : Body) : Prop where
  objective : ∀ c ∈ b.columns, c.objective.isNaN = false
  coefficients : ∀ r ∈ b.rows, ∀ t ∈ r.entries, t.2.isNaN = false
  net : ∀ r ∈ b.rows, ∀ j, ((netCoefficients r.entries).getD j).isNaN = false
  rhs : ∀ r ∈ b.rows, Lp.IsLimit r.rhs
  lower : ∀ c ∈ b.columns, Lp.IsLimit c.lower
  upper : ∀ c ∈ b.columns, Lp.IsLimit c.upper
  unit : ∀ c ∈ b.columns, c.domain = .binary →
    0 ≤ c.lower ∧ c.upper ≤ 1 ∧ c.lower ≠ Number.negativeZero

theorem map_zipWith_right {α β γ δ : Type} {f : α → β → γ} {g : γ → δ} {h : β → δ}
    (back : ∀ a b, g (f a b) = h b) {l : List α} {k : List β} (long : k.length ≤ l.length) :
    (List.zipWith f l k).map g = k.map h := by
  rw [← List.map_uncurry_zip_eq_zipWith, List.map_map]
  have second : g ∘ Function.uncurry f = h ∘ Prod.snd := funext fun t => back t.1 t.2
  rw [second, ← List.map_map, List.map_snd_zip long]

theorem mem_zipWith {α β γ : Type} {f : α → β → γ} {l : List α} {k : List β} {x : γ}
    (member : x ∈ List.zipWith f l k) : ∃ a ∈ l, ∃ b ∈ k, x = f a b := by
  obtain ⟨i, found⟩ := List.mem_iff_getElem?.1 member
  obtain ⟨a, b, left, right, rfl⟩ := List.getElem?_zipWith_eq_some.1 found
  exact ⟨a, List.mem_of_getElem? left, b, List.mem_of_getElem? right, rfl⟩

theorem map_name_columns (b : Body) (name : String) :
    (b.problem name).columns.map (·.name) = b.viewNames.columns := by
  refine (map_zipWith_right ?_ (Nat.le_of_eq b.length_viewColumns)).trans (List.map_id _)
  exact fun _ _ => rfl

theorem map_name_rows (b : Body) (name : String) :
    (b.problem name).rows.map (·.name) = b.viewNames.rows := by
  refine (map_zipWith_right ?_ (Nat.le_of_eq b.length_viewRows)).trans (List.map_id _)
  exact fun _ _ => rfl

theorem length_columns_problem (b : Body) (name : String) :
    (b.problem name).columns.length = b.columns.length := by
  show (List.zipWith _ b.columns b.viewNames.columns).length = _
  rw [List.length_zipWith, length_viewColumns, Nat.min_self]

theorem mem_objectiveTerms {t : Nat × Float} (member : t ∈ b.objectiveTerms) :
    ∃ c, b.columns[t.1]? = some c ∧ t.2 = c.objective := by
  obtain ⟨i, inside, rfl⟩ := List.mem_mapIdx.1 (List.mem_of_mem_filter member)
  exact ⟨b.columns[i], List.getElem?_eq_getElem inside, rfl⟩

/-- The problem of a sound body can be written and read back, if its numbers can. -/
theorem writable_problem (sound : b.Sound columns rows) (portable : b.Portable) (name : String) :
    (b.problem name).Writable := by
  have unique := b.unique_viewNames
  have count := b.length_columns_problem name
  refine ⟨?_, ?_, ?_, (stemChars_problemName name).1, Lp.trim_of_isToken (isToken_problemName name),
    ?_, ?_, ?_, ?_, ?_, ?_, ?_⟩
  · rw [map_name_columns]
    exact unique.distinctColumns
  · intro p member
    obtain ⟨c, -, name, given, rfl⟩ := mem_zipWith member
    exact (unique.columns name given).1.isName
  · intro p member
    obtain ⟨r, -, name, given, rfl⟩ := mem_zipWith member
    exact (unique.rows name given).1.isName.valid
  · intro newline
    exact absurd ((stemChars_problemName name).2 _ newline) (by decide)
  · intro t member
    obtain ⟨c, present, value⟩ := mem_objectiveTerms member
    rw [count, value]
    obtain ⟨inside, -⟩ := List.getElem?_eq_some_iff.1 present
    exact ⟨inside, portable.objective c (List.mem_of_getElem? present)⟩
  · intro p member t listed
    obtain ⟨r, present, name, -, rfl⟩ := mem_zipWith member
    rw [count, sound.columnCount]
    exact ⟨sound.within r present t listed, portable.coefficients r present t listed⟩
  · intro p member
    obtain ⟨r, present, name, -, rfl⟩ := mem_zipWith member
    exact portable.rhs r present
  · intro p member
    obtain ⟨c, present, name, -, rfl⟩ := mem_zipWith member
    exact portable.lower c present
  · intro p member
    obtain ⟨c, present, name, -, rfl⟩ := mem_zipWith member
    exact portable.upper c present
  · intro p member binary
    obtain ⟨c, present, name, -, rfl⟩ := mem_zipWith member
    obtain ⟨lower, upper, -⟩ := portable.unit c present binary
    exact ⟨lower, upper⟩

end Body

end LinProg
