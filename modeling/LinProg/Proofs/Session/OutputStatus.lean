import Mathlib
import LinProg.Proofs.Session.StoredSolution
import LinProg.Proofs.Solver.Run

/-!
# Solves that end on a standard output

If a solve ends on what the program wrote to its standard output, no solution file is read.  Then
nothing can be read from the model, unless the program spoke of a time limit: that counts as a status
with a solution, and every value is zero.
-/

namespace LinProg
open Operation

/-- Results without names, if they count as a solution, are zero for every column. -/
theorem Matrix.shows_empty (m : Matrix) {outcome : Outcome}
    (solved : (Status.ofOutcome outcome).hasSolution = true) :
    (m.store (.ofResults outcome .empty)).Shows (fun _ => 0) none none :=
  shows_store solved (fun _ _ _ => rfl) (fun _ _ => rfl) rfl rfl

namespace Model

variable {m : Model} {v : Variable} {vs : List Variable} {host after : Host} {outcome : Outcome}

theorem value_of_values {x : Float} {xs : List Float} (read : values [v] m = .ok (x :: xs) m) :
    value v m = .ok x m := bind_ok_iff.2 ⟨x :: xs, m, read, rfl⟩

theorem value_of_failed {cause : ModelError} (failed : values [v] m = .error cause m) :
    value v m = .error cause m := bind_error_iff.2 (.inl failed)

theorem values_of_shows {x : Nat → Float} {reduced dual : Option (Nat → Float)}
    (shows : m.matrix.Shows x reduced dual)
    (indexed : m.matrix.body.columns.length = m.matrix.columnCount)
    (owned : ∀ v ∈ vs, m.ownsColumn v.ref = true) :
    values vs m = .ok (vs.map fun v => x v.ref.index) m := by
  have inside : ∀ i ∈ vs.map fun v => v.ref.index, i < m.matrix.body.columns.length := by
    refine List.forall_mem_map.2 fun v listed => ?_
    rw [indexed]
    exact column_within (owned v listed)
  unfold values
  rw [variableAttribute_eq .value owned, shows.value _ inside, List.map_map]
  rfl

/-- The model after a solve that found an outcome and no values. -/
def withoutValues (m : Model) (outcome : Outcome) : Model :=
  { m with matrix := m.matrix.flush.store (.ofResults outcome .empty) }

theorem solve_of_endsOnOutput
    (ends : m.env.solver.EndsOnOutput (m.matrix.flush.body.problem m.matrix.name) m.env.params host
      outcome after) :
    m.solve host = (.ok false, m.withoutValues outcome, after) ∧
      outcome ∈ [.timeLimit, .unbounded, .infeasible] := by
  obtain ⟨ran, told⟩ := Solver.run_of_endsOnOutput ends
  refine ⟨?_, told⟩
  rcases m.solve_cases host with ⟨solution, left, same, solved⟩ | ⟨cause, left, same, -⟩
  · rw [ran] at same
    cases same
    rw [solved]
    fin_cases told <;> rfl
  · rw [ran] at same
    cases same

theorem unreadable_withoutValues (m : Model)
    (unsolved : (Status.ofOutcome outcome).hasSolution = false) :
    (∀ vs : List Variable, (∀ v ∈ vs, (m.withoutValues outcome).ownsColumn v.ref = true) →
      values vs (m.withoutValues outcome) = .error (.matrix (.unavailable "X")) (m.withoutValues outcome)) ∧
    objectiveValue (m.withoutValues outcome) =
      .error (.matrix (.unavailable "ObjVal")) (m.withoutValues outcome) :=
  (solutionOf (Matrix.current_store m.matrix.flush _).solutionOf).unreadable unsolved

theorem zeros_withoutValues (sound : m.matrix.Sound)
    (solved : (Status.ofOutcome outcome).hasSolution = true) :
    (∀ vs : List Variable, (∀ v ∈ vs, (m.withoutValues outcome).ownsColumn v.ref = true) →
      values vs (m.withoutValues outcome) = .ok (vs.map fun _ => 0) (m.withoutValues outcome)) ∧
    objectiveValue (m.withoutValues outcome) =
      .ok (m.matrix.flush.body.objectiveAt fun _ => 0) (m.withoutValues outcome) := by
  have shows : (m.withoutValues outcome).matrix.Shows (fun _ => 0) none none :=
    m.matrix.flush.shows_empty solved
  constructor
  · intro vs owned
    refine values_of_shows shows ?_ owned
    exact sound.columnCount.trans (Matrix.columnCount_flush m.matrix).symm
  · show lookUp (m.withoutValues outcome).matrix.objectiveValue _ = _
    rw [shows.objective]
    rfl

end Model

namespace Session

/-- Whatever calls lead to a model, and whatever solver it has: if a solve ends on a standard output, it
reports that no optimal solution was found.  Afterwards values are not available, except after a time
limit, when all of them are zero. -/
theorem read_after_output (w : Workspace) (name : String) (env : Environment) (calls : List Call)
    (installed : List (String × List Response)) (outcome : Outcome) (after : Host) :
    let s := (create w name env).after calls
    let b := s.model.matrix.flush.body
    let solved := s.model.solve (s.workspace.host installed)
    let n := solved.2.1
    s.model.env.solver.EndsOnOutput (b.problem s.model.matrix.name) s.model.env.params
        (s.workspace.host installed) outcome after →
      solved.1 = .ok false ∧ solved.2.2 = after ∧ n.matrix.status = .ofOutcome outcome ∧
        (outcome ≠ .timeLimit →
          (∀ vs : List Variable, (∀ v ∈ vs, n.ownsColumn v.ref = true) →
            Model.values vs n = .error (.matrix (.unavailable "X")) n) ∧
          (∀ v : Variable, n.ownsColumn v.ref = true →
            Model.value v n = .error (.matrix (.unavailable "X")) n) ∧
          Model.objectiveValue n = .error (.matrix (.unavailable "ObjVal")) n) ∧
        (outcome = .timeLimit →
          (∀ vs : List Variable, (∀ v ∈ vs, n.ownsColumn v.ref = true) →
            Model.values vs n = .ok (vs.map fun _ => 0) n) ∧
          (∀ v : Variable, n.ownsColumn v.ref = true → Model.value v n = .ok 0 n) ∧
          Model.objectiveValue n = .ok (b.objectiveAt fun _ => 0) n) := by
  intro s b solved n ends
  have sound : s.model.matrix.Sound := (sound_after calls (sound_create w name env)).matrix
  obtain ⟨same, told⟩ := Model.solve_of_endsOnOutput ends
  have ended : solved = (.ok false, s.model.withoutValues outcome, after) := same
  have state : n = s.model.withoutValues outcome := congrArg (·.2.1) ended
  rw [ended, state]
  refine ⟨rfl, rfl, rfl, fun unlimited => ?_, fun limited => ?_⟩
  · -- the outcomes that remain have no solution, so none is stored
    have unsolved : (Status.ofOutcome outcome).hasSolution = false := by
      fin_cases told
      · exact absurd rfl unlimited
      · rfl
      · rfl
    obtain ⟨values, objective⟩ := s.model.unreadable_withoutValues unsolved
    refine ⟨values, fun v owned => ?_, objective⟩
    exact Model.value_of_failed (values [v] (List.forall_mem_singleton.2 owned))
  · obtain ⟨values, objective⟩ := Model.zeros_withoutValues sound (congrArg (·.hasSolution)
      (congrArg Status.ofOutcome limited))
    refine ⟨values, fun v owned => ?_, objective⟩
    exact Model.value_of_values (values [v] (List.forall_mem_singleton.2 owned))

def limitedVariable : Variable := ⟨⟨0, 0⟩, 1, 4, .continuous, some "x"⟩

/-- A variable that is at least one is added, and an objective. -/
def limitedCalls : List Call :=
  [.request (.addVariable 1 4 .continuous (some "x")),
    .request (.addObjective (.term limitedVariable 2) .minimize)]

def limitedResponse : Response := ⟨0, "Time limit reached\nBest objective 3".toUTF8, none⟩

def limitedPrograms : List (String × List Response) := [("gurobi_cl", [limitedResponse])]

theorem read_after_output_limitedCalls :
    let s := (create .empty "test" ⟨.program (.ofKind .gurobi), .default⟩).after limitedCalls
    let n := (s.model.solve (s.workspace.host limitedPrograms)).2.1
    n.matrix.status = .timeLimit ∧ n.ownsColumn limitedVariable.ref = true ∧
      Model.value limitedVariable n = .ok 0 n ∧ Model.objectiveValue n = .ok 0 n := by
  intro s n
  let host := s.workspace.host limitedPrograms
  have place (b : Body) : (Program.ofKind .gurobi).place (b.problem "test") host = .ok .fresh host :=
    rfl
  have named : s.model.matrix.name = "test" := by decide +kernel
  have solver : s.model.env.solver = .program (.ofKind .gurobi) := by decide +kernel
  obtain ⟨after, ends⟩ : ∃ after, s.model.env.solver.EndsOnOutput
      (s.model.matrix.flush.body.problem s.model.matrix.name) s.model.env.params host .timeLimit
      after := by
    rw [solver, named]
    exact ⟨_, .fresh, limitedResponse, host, place _, rfl, by decide +kernel, by decide⟩
  obtain ⟨-, -, status, -, limited⟩ := read_after_output .empty "test"
    ⟨.program (.ofKind .gurobi), .default⟩ limitedCalls limitedPrograms .timeLimit after ends
  obtain ⟨-, value, objective⟩ := limited rfl
  have owned : n.ownsColumn limitedVariable.ref = true := by decide +kernel
  have zero : s.model.matrix.flush.body.objectiveAt (fun _ => 0) = 0 := by decide +kernel
  exact ⟨status, owned, value limitedVariable owned, zero ▸ objective⟩

end Session

end LinProg
