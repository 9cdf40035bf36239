import Mathlib
import LinProg.Proofs.Operation
import LinProg.Solver.Run

/-!
# What a run returns

A run that gets as far as the solution file returns what that file says: `run_of_reads`.  One that ends
on what the program wrote to its standard output returns an outcome without values:
`run_of_endsOnOutput`.
-/

namespace LinProg.Program
open Operation

variable {p : Program} {problem : Problem} {params : Params} {host : Host} {content : ByteArray}
  {s : Solution}

/-- A run gets as far as a solution file with some content. -/
def Reads (p : Program) (problem : Problem) (params : Params) (host : Host)
    (content : ByteArray) : Prop :=
  ∃ place response placed launched,
    p.place problem host = .ok place placed ∧
    p.launch problem params place placed = .ok response launched ∧
    p.outcomeOfOutput? response.output ∈ [none, some .optimal] ∧
    match place with
    | .kept path => launched.disk.read path = .ok content
    | .fresh => response.solution.getD .empty = content

theorem readSolution_ok {path : String} (there : host.disk.read path = .ok content)
    (said : p.readReport (some problem) content = .ok s) :
    p.readSolution (some problem) path host =
      .ok s { host with disk := host.disk.remove path } := by
  unfold readSolution
  refine bind_ok_iff.2 ⟨host, host, rfl, ?_⟩
  simp only [there, said]
  rfl

theorem collect_ok {place : SolutionPlace} (response : Response)
    (there : match place with
      | .kept path => host.disk.read path = .ok content
      | .fresh => response.solution.getD .empty = content)
    (said : p.readReport (some problem) content = .ok s) :
    ∃ after, p.collect problem place response host = .ok s after := by
  cases place with
  | kept path => exact ⟨_, readSolution_ok there said⟩
  | fresh =>
    obtain rfl : response.solution.getD .empty = content := there
    refine ⟨host, ?_⟩
    unfold collect
    simp only [said]
    rfl

theorem run_of_reads (reads : p.Reads problem params host content)
    (said : p.readReport (some problem) content = .ok s) :
    ∃ after, p.run problem params host = .ok s after := by
  obtain ⟨place, response, placed, launched, placing, launching, output, there⟩ := reads
  obtain ⟨after, collected⟩ := collect_ok response there said
  refine ⟨after, ?_⟩
  unfold run
  refine bind_ok_iff.2 ⟨place, placed, placing, bind_ok_iff.2 ⟨response, launched, launching, ?_⟩⟩
  simp only [List.mem_cons, List.not_mem_nil, or_false] at output
  rcases output with silent | optimal
  · simp only [silent]
    exact collected
  · simp only [optimal]
    exact collected

/-- A run ends on the outcome that the standard output tells, and no solution file is read. -/
def EndsOnOutput (p : Program) (problem : Problem) (params : Params) (host : Host)
    (outcome : Outcome) (after : Host) : Prop :=
  ∃ place response placed,
    p.place problem host = .ok place placed ∧
    p.launch problem params place placed = .ok response after ∧
    p.outcomeOfOutput? response.output = some outcome ∧ outcome ≠ .optimal

variable {outcome : Outcome} {after : Host}

/-- Of the outcomes that a standard output tells, all but an optimal one end the run. -/
theorem outcome_of_output {output : ByteArray} (tells : p.outcomeOfOutput? output = some outcome)
    (other : outcome ≠ .optimal) : outcome ∈ [.timeLimit, .unbounded, .infeasible] := by
  unfold outcomeOfOutput? at tells
  cases kind : p.kind with
  | cbc => simp [kind] at tells
  | glpk => simp [kind] at tells
  | gurobi =>
    simp only [kind] at tells
    split at tells
    · exact absurd (Option.some.inj tells).symm other
    · split at tells
      · cases tells
        simp
      · split at tells
        · cases tells
          simp
        · split at tells
          · cases tells
            simp
          · cases tells
  | cplex =>
    simp only [kind] at tells
    split at tells
    · cases tells
      simp
    · cases tells

theorem run_of_endsOnOutput (ends : p.EndsOnOutput problem params host outcome after) :
    p.run problem params host = .ok (.ofResults outcome .empty) after ∧
      outcome ∈ [.timeLimit, .unbounded, .infeasible] := by
  obtain ⟨place, response, placed, placing, launching, output, other⟩ := ends
  refine ⟨?_, outcome_of_output output other⟩
  unfold run
  refine bind_ok_iff.2 ⟨place, placed, placing, bind_ok_iff.2 ⟨response, after, launching, ?_⟩⟩
  rw [output]
  cases outcome with
  | optimal => exact absurd rfl other
  | _ => rfl

end LinProg.Program

namespace LinProg.Solver

variable {s : Solver} {problem : Problem} {params : Params} {host after : Host} {outcome : Outcome}

/-- The program that a solver comes down to ends on its standard output. -/
def EndsOnOutput : Solver → Problem → Params → Host → Outcome → Host → Prop
  | leaf (some p), problem, params, host, outcome, after =>
    p.EndsOnOutput problem params host outcome after
  | leaf .none, _, _, _, _, _ => False
  | chain first second, problem, params, host, outcome, after =>
    match first.run .probe params host with
    | .ok _ probed => first.EndsOnOutput problem params probed outcome after
    | .error _ probed => second.EndsOnOutput problem params probed outcome after

/-- A run that ends on a standard output has an outcome and no values. -/
theorem run_of_endsOnOutput (ends : s.EndsOnOutput problem params host outcome after) :
    s.run problem params host = .ok (.ofResults outcome .empty) after ∧
      outcome ∈ [.timeLimit, .unbounded, .infeasible] := by
  induction s generalizing problem host with
  | leaf p? =>
    cases p? with
    | some p => exact Program.run_of_endsOnOutput ends
    | none => exact ends.elim
  | chain first second left right =>
    -- either way the probe is over, and the host is as it left it
    unfold EndsOnOutput at ends
    unfold run runWith
    cases probe : first.runWith runLeaf .probe params host with
    | ok found probed =>
      have same : first.run .probe params host = .ok found probed := probe
      rw [same] at ends
      exact left ends
    | error cause probed =>
      have same : first.run .probe params host = .error cause probed := probe
      rw [same] at ends
      exact right ends

end LinProg.Solver
