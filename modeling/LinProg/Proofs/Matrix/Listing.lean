import Mathlib
import LinProg.Proofs.Lp.Listing
import LinProg.Proofs.Matrix.File
import LinProg.Proofs.Matrix.Import

/-!
# Matrices that are read from a text

The terms of a document find their variables, because each name is declared once.  So a matrix that is
read has a row with the same terms for each row of the text, and adds up the objective terms of each
column (`readFrom_accounts`).
-/

namespace LinProg

/-! ### Finding variables -/

namespace Lp.Document

variable {d : Document} {name : String} {j : Nat} {terms : List (String × Float)}

theorem findIdx?_eq_some_iff (distinct : (d.declared.map (·.name)).Nodup) :
    d.declared.findIdx? (·.name = name) = some j ↔ d.declared[j]?.map (·.name) = some name := by
  rw [List.findIdx?_eq_some_iff_getElem]
  constructor
  · rintro ⟨inside, found, -⟩
    rw [List.getElem?_eq_getElem inside, Option.map_some, of_decide_eq_true found]
  · intro found
    obtain ⟨v, present, rfl⟩ := Option.map_eq_some_iff.1 found
    obtain ⟨inside, rfl⟩ := List.getElem?_eq_some_iff.1 present
    refine ⟨inside, decide_eq_true rfl, fun i before same => ?_⟩
    have pairs := List.pairwise_map.1 distinct
    exact List.pairwise_iff_getElem.1 pairs i j (before.trans inside) inside before
      (of_decide_eq_true same)

theorem positions_cons (name : String) (x : Float) (terms : List (String × Float)) :
    d.positions ((name, x) :: terms) =
      ((d.declared.findIdx? (·.name = name)).map fun i => (i, x)).toList ++ d.positions terms := by
  unfold positions
  rw [List.filterMap_cons]
  dsimp only
  cases d.declared.findIdx? (·.name = name) <;> rfl

/-- The terms at the position of a variable are those of its name. -/
theorem valuesAt_positions (distinct : (d.declared.map (·.name)).Nodup)
    (present : d.declared[j]?.map (·.name) = some name) (terms : List (String × Float)) :
    valuesAt j (d.positions terms) = valuesAt name terms := by
  induction terms with
  | nil => rfl
  | cons term terms ih =>
    obtain ⟨other, x⟩ := term
    rw [positions_cons, valuesAt_append, ih, valuesAt_cons]
    by_cases same : other = name
    · subst same
      rw [(findIdx?_eq_some_iff distinct).2 present, Option.map_some, Option.toList_some,
        valuesAt_cons, if_pos rfl, if_pos rfl]
      rfl
    · rw [if_neg same]
      cases found : d.declared.findIdx? (·.name = other) with
      | none => rfl
      | some i =>
        have elsewhere : i ≠ j := by
          rintro rfl
          rw [findIdx?_eq_some_iff distinct, present] at found
          exact same (Option.some.inj found).symm
        rw [Option.map_some, Option.toList_some, valuesAt_cons, if_neg elsewhere]
        rfl

end Lp.Document

namespace Body

def named (b : Body) (entries : List (Nat × Float)) : List (Option String × Float) :=
  entries.map fun e => (b.columns[e.1]?.bind (·.name), e.2)

/-- No term is dropped, and each stands for a column with its name. -/
theorem named_positions {d : Lp.Document} (distinct : (d.declared.map (·.name)).Nodup)
    {terms : List (String × Float)} (listed : ∀ t ∈ terms, t.1 ∈ d.declared.map (·.name)) :
    (Matrix.bodyOf d).named (d.positions terms) = terms.map fun t => (some t.1, t.2) := by
  unfold named
  induction terms with
  | nil => rfl
  | cons term terms ih =>
    obtain ⟨first, others⟩ := List.forall_mem_cons.1 listed
    obtain ⟨j, inside, here⟩ := List.mem_iff_getElem.1 first
    have present : d.declared[j]?.map (·.name) = some term.1 := by
      rw [← List.getElem?_map, List.getElem?_eq_getElem inside, here]
    have column : (Matrix.bodyOf d).columns[j]?.bind (·.name) = some term.1 := by
      obtain ⟨v, declared, same⟩ := Option.map_eq_some_iff.1 present
      rw [getElem?_columns_bodyOf, declared]
      exact congrArg some same
    have found := (Lp.Document.findIdx?_eq_some_iff distinct).2 present
    rw [Lp.Document.positions_cons, found, List.map_append, ih others, List.map_cons, ← column]
    rfl

end Body

namespace Matrix

/-- A matrix has a column for each variable of a document, which adds up the objective terms of its
name, and a row for each row, with the same terms in the same order. -/
structure Reflects (m : Matrix) (d : Lp.Document) : Prop where
  columns : m.body.columns.map (·.name) = d.declared.map fun v => some v.name
  objective : ∀ c ∈ m.body.columns, ∀ name, c.name = some name →
    c.objective = (valuesAt name d.objective).foldl (· + ·) 0
  rows : m.body.rows.map (fun r => (r.name, m.body.named r.entries, r.relation, r.rhs)) =
    d.rows.map fun row =>
      (some row.name, row.terms.map (fun t => (some t.1, t.2)), row.relation, row.rhs)

theorem reflects_ofDocument {d : Lp.Document} {lines : List Lp.Statement}
    (accounts : d.Accounts lines) : (ofDocument d).Reflects d := by
  refine ⟨?_, ?_, ?_⟩
  · refine List.ext_getElem? fun j => ?_
    show ((bodyOf d).columns.map _)[j]? = _
    rw [List.getElem?_map, List.getElem?_map, Body.getElem?_columns_bodyOf, Option.map_map]
    rfl
  · intro c member name named
    obtain ⟨j, present⟩ := List.mem_iff_getElem?.1 member
    change (bodyOf d).columns[j]? = some c at present
    rw [Body.getElem?_columns_bodyOf] at present
    obtain ⟨v, declared, rfl⟩ := Option.map_eq_some_iff.1 present
    cases named
    rw [Lp.Document.valuesAt_positions accounts.distinct (by rw [declared]; rfl)]
  · show (bodyOf d).rows.map _ = _
    rw [Body.rows_bodyOf, List.map_map]
    refine List.map_congr_left fun row member => ?_
    have terms := Body.named_positions accounts.distinct (accounts.listed_rows row member)
    exact congrArg (fun terms => (some row.name, terms, row.relation, row.rhs)) terms

/-- An accepted text has its names listed once, in the order of bound lines and then of first use.  Its
terms name listed variables, so a matrix that is read from it drops none of them. -/
theorem readFrom_accounts {text : String} {d : Lp.Document} (h : Lp.read text = .ok d) :
    d.Accounts (Lp.statements text) ∧
      (∀ term ∈ d.objective, term.1 ∈ d.declared.map (·.name)) ∧
      (∀ row ∈ d.rows, ∀ term ∈ row.terms, term.1 ∈ d.declared.map (·.name)) ∧
      ∀ disk path, isModelFile path = true → Disk.readText disk path = .ok text →
        ∃ m, readFrom disk path = .ok m ∧ m.Reflects d := by
  have accounts := Lp.read_accounts h
  refine ⟨accounts, accounts.listed_objective, accounts.listed_rows, ?_⟩
  intro disk path file content
  exact ⟨ofDocument d, readFrom_ok_iff.2 ⟨file, text, d, content, h, rfl⟩,
    reflects_ofDocument accounts⟩

/-- A text with sections that come back, a name in a second bound line, and one that is only listed. -/
def mixedSections : String :=
  "Maximize\n obj: 2 x - y + x\nBounds\n w free\nSubject To\n c1: z + 3 x >= 2\n" ++
    "Bounds\n y <= 4\n w <= 7\nGenerals\n v x\nEnd\n q\n"

theorem readFrom_accounts_mixedSections :
    ∃ d m, Lp.read mixedSections = .ok d ∧
      readFrom ⟨[("mixed.lp", mixedSections.toUTF8)]⟩ "mixed.lp" = .ok m ∧
      m.body.columns.map (·.name) = [some "w", some "y", some "x", some "z", some "v"] := by
  have accepted : (Lp.read mixedSections).isOk = true := by decide +kernel
  cases read : Lp.read mixedSections with
  | error cause =>
    rw [read] at accepted
    cases accepted
  | ok d =>
    obtain ⟨accounts, -, -, matrix⟩ := readFrom_accounts read
    obtain ⟨m, success, reflects⟩ := matrix ⟨[("mixed.lp", mixedSections.toUTF8)]⟩ "mixed.lp"
      (by decide +kernel) (by decide +kernel)
    refine ⟨d, m, rfl, success, ?_⟩
    have names : d.declared.map (·.name) = ["w", "y", "x", "z", "v"] := by
      rw [accounts.order]
      decide +kernel
    have given : d.declared.map (fun v => some v.name) = (d.declared.map (·.name)).map some :=
      List.map_map.symm
    rw [reflects.columns, given, names]
    rfl

end Matrix

end LinProg
