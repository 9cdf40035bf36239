import Mathlib
import LinProg.Proofs.Operation
import LinProg.Solver.Run

/-!
# Chains as lists of leaves

A tree of chains runs like the list of its leaves: on the problem it runs the first leaf that solves the
probe, or else the last one, and no leaf after that is tried (`runWith_choose`).  Leaves must answer
alike whatever ran before, as programs do that behave the same each time (`steady_of_regular`).
-/

namespace LinProg

/-- What an operation answers, whatever state it leaves. -/
def Operation.answer {ε σ α : Type} : EStateM.Result ε σ α → Except ε α
  | .ok a _ => .ok a
  | .error e _ => .error e

namespace Operation

variable {ε σ α : Type} {P Q : σ → σ → Prop} {f : EStateM ε σ α} {s t : σ}

theorem Lockstep.answer (h : Lockstep P Q f) (related : P s t) :
    answer (f s) = answer (f t) ∧ Q (final (f s)) (final (f t)) := by
  have alike := h s t related
  cases left : f s <;> cases right : f t <;> rw [left, right] at alike
  · exact ⟨congrArg Except.ok alike.1, alike.2⟩
  · exact alike.elim
  · exact alike.elim
  · exact ⟨congrArg Except.error alike.1, alike.2⟩

end Operation

/-! ### Programs that behave the same each time -/

namespace Host

/-- Each installed program responds alike to every launch. -/
def Regular (installed : List (String × List Response)) : Prop :=
  ∀ command responses, installed.lookup command = some responses → ∃ r, ∀ x ∈ responses, x = r

def Both (installed : List (String × List Response)) (g h : Host) : Prop :=
  g.installed = installed ∧ h.installed = installed

variable {installed : List (String × List Response)} {g h : Host}

theorem nextResponse?_eq (regular : Regular installed) (both : Both installed g h)
    (command : String) : g.nextResponse? command = h.nextResponse? command := by
  unfold Host.nextResponse?
  rw [both.1, both.2]
  cases there : installed.lookup command with
  | none => rfl
  | some responses =>
    obtain ⟨r, all⟩ := regular command responses there
    have next (k : Nat) : (responses[k]? <|> responses.getLast?) = responses.getLast? := by
      cases at_k : responses[k]? with
      | none => rfl
      | some x =>
        have listed := List.mem_of_getElem? at_k
        have last : responses.getLast? = some r := by
          rw [List.getLast?_eq_some_getLast (List.ne_nil_of_mem listed)]
          exact congrArg some (all _ (List.getLast_mem _))
        rw [last, all x listed]
        rfl
    simp only [Option.map_some, next]

end Host

namespace Program
open Operation

/-- A program that writes to fresh files runs alike on hosts with the same programs. -/
theorem lockstep_run {installed : List (String × List Response)} (regular : Host.Regular installed)
    {p : Program} (fresh : p.solutionFile = none) (problem : Problem) (params : Params) :
    Lockstep (Host.Both installed) (Host.Both installed) (p.run problem params) := by
  have place : p.place problem = pure .fresh ∨ ∃ cause, p.place problem = throw cause := by
    unfold Program.place
    rw [fresh]
    by_cases first : Scratch.fits problem.name ".lp" = true
    · by_cases second : Scratch.fits problem.name (p.kind.solutionSuffix?.getD ".sol") = true
      · rw [if_pos first, if_pos second]
        exact .inl rfl
      · rw [if_pos first, if_neg second]
        exact .inr ⟨_, rfl⟩
    · rw [if_neg first]
      exact .inr ⟨_, rfl⟩
  have launch : Lockstep (Host.Both installed) (Host.Both installed)
      (p.launch problem params .fresh) := by
    refine .get_bind fun g h same => ?_
    rw [Host.nextResponse?_eq regular same]
    cases h.nextResponse? p.command with
    | none => exact ⟨rfl, same⟩
    | some response =>
      dsimp only
      have recorded (launch : Launch) : Host.Both installed (g.record launch) (h.record launch) := same
      by_cases fails : response.exitCode ≠ 0
      · rw [if_pos fails]
        exact ⟨rfl, recorded _⟩
      · rw [if_neg fails]
        exact ⟨rfl, recorded _⟩
  have collect (response : Response) : Lockstep (Host.Both installed) (Host.Both installed)
      (p.collect problem .fresh response) := by
    unfold Program.collect
    dsimp only
    split
    · exact .pure _
    · exact .throw _
  unfold Program.run
  rcases place with placed | ⟨cause, failed⟩
  · rw [placed, pure_bind]
    refine .bind launch fun response => ?_
    split
    · exact collect response
    · exact collect response
    · exact .pure _
  · rw [failed]
    exact .throw_bind _ _

end Program

namespace Solver
open Operation

/-- The leaves of a tree, from left to right. -/
def leaves : Solver → List (Option Program)
  | leaf p => [p]
  | chain first second => first.leaves ++ second.leaves

theorem leaves_ne_nil (tree : Solver) : tree.leaves ≠ [] := by
  induction tree with
  | leaf p => exact List.cons_ne_nil _ _
  | chain first second left right => exact List.append_ne_nil_of_left_ne_nil left _

/-! ### The choice in a list -/

section Choice

variable (works : Option Program → Bool) {ls ms : List (Option Program)}

/-- The first leaf that works, or else the last one. -/
def choose (works : Option Program → Bool) : List (Option Program) → Option Program
  | [] => .none
  | [last] => last
  | p :: q :: more => if works p then p else choose works (q :: more)

/-- The leaves up to the one chosen. -/
def tried (works : Option Program → Bool) : List (Option Program) → List (Option Program)
  | [] => []
  | [last] => [last]
  | p :: q :: more => if works p then [p] else p :: tried works (q :: more)

theorem choose_cons (p : Option Program) (more : ls ≠ []) :
    choose works (p :: ls) = if works p then p else choose works ls := by
  cases ls with
  | nil => exact absurd rfl more
  | cons q rest => rw [choose]

theorem tried_cons (p : Option Program) (more : ls ≠ []) :
    tried works (p :: ls) = if works p then [p] else p :: tried works ls := by
  cases ls with
  | nil => exact absurd rfl more
  | cons q rest => rw [tried]

theorem choose_append (left : ls ≠ []) (right : ms ≠ []) :
    choose works (ls ++ ms) = (if works (choose works ls) then choose works ls else choose works ms) ∧
      tried works (ls ++ ms) =
        if works (choose works ls) then tried works ls else tried works ls ++ tried works ms := by
  induction ls with
  | nil => exact absurd rfl left
  | cons p more ih =>
    have longer : more ++ ms ≠ [] := List.append_ne_nil_of_right_ne_nil _ right
    rw [List.cons_append, choose_cons works p longer, tried_cons works p longer]
    by_cases last : more = []
    · subst last
      by_cases here : works p = true <;> simp [choose, tried, here]
    · obtain ⟨chosen, upTo⟩ := ih last
      rw [choose_cons works p last, tried_cons works p last, chosen, upTo]
      by_cases here : works p = true
      · simp [here]
      · simp only [here, Bool.false_eq_true, if_false, true_and]
        split <;> rfl

/-- The choice stands behind leaves that do not work, and last unless it works. -/
theorem choose_spec (some : ls ≠ []) :
    ∃ before after, ls = before ++ choose works ls :: after ∧
      tried works ls = before ++ [choose works ls] ∧ (∀ p ∈ before, works p = false) ∧
      (works (choose works ls) = true ∨ after = []) := by
  induction ls with
  | nil => exact absurd rfl some
  | cons p more ih =>
    by_cases last : more = []
    · subst last
      exact ⟨[], [], by simp [choose], by simp [choose, tried], nofun, .inr rfl⟩
    · rw [choose_cons works p last, tried_cons works p last]
      by_cases here : works p = true
      · rw [if_pos here, if_pos here]
        exact ⟨[], more, rfl, rfl, nofun, .inl here⟩
      · rw [if_neg here, if_neg here]
        obtain ⟨before, after, shape, upTo, failing, stops⟩ := ih last
        refine ⟨p :: before, after, ?_, ?_, ?_, stops⟩
        · rw [List.cons_append, ← shape]
        · rw [List.cons_append, ← upTo]
        · exact List.forall_mem_cons.2 ⟨by simpa using here, failing⟩

theorem choose_mem_tried (some : ls ≠ []) : choose works ls ∈ tried works ls := by
  obtain ⟨before, after, -, upTo, -, -⟩ := choose_spec works some
  simp [upTo]

theorem tried_subset : tried works ls ⊆ ls := by
  by_cases some : ls = []
  · simp [some, tried]
  · obtain ⟨before, after, shape, upTo, -, -⟩ := choose_spec works some
    intro p listed
    rw [upTo] at listed
    rw [shape]
    simp only [List.mem_append, List.mem_cons, List.not_mem_nil, or_false] at listed ⊢
    tauto

end Choice

/-! ### Runs of leaves -/

section Runs

variable {σ : Type} {onLeaf : Option Program → Problem → Params → EStateM SolverError σ Solution}
  {ls ms : List (Option Program)} {qs rs : List Problem} {params : Params} {s t u : σ}

/-- The states that runs of some leaves on some problems lead to. -/
inductive Ran (onLeaf : Option Program → Problem → Params → EStateM SolverError σ Solution)
    (ls : List (Option Program)) (qs : List Problem) (params : Params) (s : σ) : σ → Prop where
  | start : Ran onLeaf ls qs params s s
  | run {t : σ} {p : Option Program} {problem : Problem} : Ran onLeaf ls qs params s t → p ∈ ls →
      problem ∈ qs → Ran onLeaf ls qs params s (final (onLeaf p problem params t))

/-- What the leaves answer to the problems does not depend on earlier runs of theirs. -/
def Steady (onLeaf : Option Program → Problem → Params → EStateM SolverError σ Solution)
    (ls : List (Option Program)) (qs : List Problem) (params : Params) (s : σ) : Prop :=
  ∀ t, Ran onLeaf ls qs params s t → ∀ p ∈ ls, ∀ problem ∈ qs,
    answer (onLeaf p problem params t) = answer (onLeaf p problem params s)

theorem Ran.trans (first : Ran onLeaf ls qs params s t) (second : Ran onLeaf ls qs params t u) :
    Ran onLeaf ls qs params s u := by
  induction second with
  | start => exact first
  | run _ p problem ih => exact .run ih p problem

theorem Ran.mono (ran : Ran onLeaf ls qs params s t) (leaves : ls ⊆ ms)
    (problems : ∀ q ∈ qs, q ∈ rs) : Ran onLeaf ms rs params s t := by
  induction ran with
  | start => exact .start
  | run _ p problem ih => exact .run ih (leaves p) (problems _ problem)

def solvesProbe (onLeaf : Option Program → Problem → Params → EStateM SolverError σ Solution)
    (params : Params) (s : σ) (p : Option Program) : Bool :=
  (answer (onLeaf p .probe params s)).isOk

/-- After probes of the leaves up to the choice, a tree runs its choice.  The induction is on a part of
the tree, whose leaves are steady together with all others. -/
theorem runWith_eq (steady : Steady onLeaf ls qs params s) (probe : .probe ∈ qs)
    {works : Option Program → Bool} (tells : works = solvesProbe onLeaf params s) (tree : Solver)
    (within : tree.leaves ⊆ ls) {problem : Problem} (listed : problem ∈ qs)
    (ran : Ran onLeaf ls qs params s t) :
    ∃ u, Ran onLeaf (tried works tree.leaves) [.probe] params t u ∧
      tree.runWith onLeaf problem params t = onLeaf (choose works tree.leaves) problem params u := by
  induction tree generalizing problem t with
  | leaf p => exact ⟨t, .start, by simp [runWith, leaves, choose]⟩
  | chain first second left right =>
    obtain ⟨inFirst, inSecond⟩ := List.append_subset.1 within
    obtain ⟨chosen, upTo⟩ := choose_append works first.leaves_ne_nil second.leaves_ne_nil
    obtain ⟨u, probes, probing⟩ := left inFirst probe ran
    have last := choose_mem_tried works first.leaves_ne_nil
    have mine : tried works first.leaves ⊆ ls := List.Subset.trans (tried_subset works) inFirst
    have onProbe : ∀ q ∈ [Problem.probe], q ∈ qs := List.forall_mem_singleton.2 probe
    have probed := probes.run last (List.mem_singleton_self _)
    have reached := ran.trans (probed.mono mine onProbe)
    -- the choice of the first tree answers to the probe as it does at the start
    have same := steady u (ran.trans (probes.mono mine onProbe)) _ (mine last) .probe probe
    have decides : works (choose works first.leaves) =
        (answer (onLeaf (choose works first.leaves) .probe params u)).isOk := by
      rw [same]
      exact congrFun tells _
    simp only [leaves, runWith]
    rw [chosen, upTo, decides, probing]
    cases outcome : onLeaf (choose works first.leaves) .probe params u with
    | ok solution v =>
      rw [outcome] at probed reached
      obtain ⟨w, again, runs⟩ := left inFirst listed reached
      exact ⟨w, probed.trans again, runs⟩
    | error cause v =>
      rw [outcome] at probed reached
      obtain ⟨w, more, runs⟩ := right inSecond listed reached
      refine ⟨w, ?_, runs⟩
      exact (probed.mono (List.subset_append_left _ _) fun _ => id).trans
        (more.mono (List.subset_append_right _ _) fun _ => id)

/-- Runs a leaf, given how programs run: the leaf without a program finds no solver. -/
def leafWith (onProgram : Program → Problem → Params → EStateM SolverError σ Solution) :
    Option Program → Problem → Params → EStateM SolverError σ Solution
  | some p, problem, params => onProgram p problem params
  | .none, _, _ => throw .noSolver

end Runs

theorem run_eq_runWith (tree : Solver) : tree.run = tree.runWith (leafWith Program.run) := by
  have leaf : runLeaf = leafWith Program.run := by
    funext p
    cases p <;> rfl
  funext problem params
  unfold run
  rw [leaf]

/-- If programs respond alike to every launch, and write to fresh files, their answers do not depend on
earlier runs. -/
theorem steady_of_regular {host : Host} (regular : Host.Regular host.installed)
    {ls : List (Option Program)} (fresh : ∀ p, some p ∈ ls → p.solutionFile = .none)
    (qs : List Problem) (params : Params) : Steady (leafWith Program.run) ls qs params host := by
  have each (p : Option Program) (listed : p ∈ ls) (problem : Problem) :
      Lockstep (Host.Both host.installed) (Host.Both host.installed)
        (leafWith Program.run p problem params) := by
    cases p with
    | none => exact .throw _
    | some p => exact Program.lockstep_run regular (fresh p listed) problem params
  have installed {t : Host} (ran : Ran (leafWith Program.run) ls qs params host t) :
      Host.Both host.installed t host := by
    induction ran with
    | start => exact ⟨rfl, rfl⟩
    | @run t p problem _ listed _ ih => exact ⟨((each p listed problem).answer ih).2.1, rfl⟩
  exact fun t ran p listed problem _ => ((each p listed problem).answer (installed ran)).1

/-- Whatever programs do, as long as what they answer does not depend on earlier runs, a tree of chains
ends as its choice does: the first leaf that solves the probe, or else the last one.  Before that,
none but the leaves up to the choice are run, and these on the probe only.  If no leaf solves the probe
and the last one has no program, no solver is found. -/
theorem runWith_choose {σ : Type}
    (onProgram : Program → Problem → Params → EStateM SolverError σ Solution) (tree : Solver)
    (problem : Problem) (params : Params) (s : σ)
    (steady : Steady (leafWith onProgram) tree.leaves [.probe, problem] params s) :
    let works := solvesProbe (leafWith onProgram) params s
    let chosen := choose works tree.leaves
    (∃ before after t, tree.leaves = before ++ chosen :: after ∧
      (∀ p ∈ before, works p = false) ∧ (works chosen = true ∨ after = []) ∧
      Ran (leafWith onProgram) (before ++ [chosen]) [.probe] params s t ∧
      tree.runWith (leafWith onProgram) problem params s =
        leafWith onProgram chosen problem params t) ∧
    answer (tree.runWith (leafWith onProgram) problem params s) =
      answer (leafWith onProgram chosen problem params s) ∧
    (tree.leaves.getLast? = some .none → (∀ p ∈ tree.leaves, works p = false) →
      answer (tree.runWith (leafWith onProgram) problem params s) = .error .noSolver) := by
  intro works chosen
  have some := tree.leaves_ne_nil
  obtain ⟨before, after, shape, upTo, failing, stops⟩ := choose_spec works some
  obtain ⟨t, probes, runs⟩ := runWith_eq steady List.mem_cons_self (rfl : works = _) tree
    (List.Subset.refl _) (List.mem_cons_of_mem _ (List.mem_singleton_self problem)) .start
  have isLeaf : chosen ∈ tree.leaves := tried_subset works (choose_mem_tried works some)
  have same : answer (tree.runWith (leafWith onProgram) problem params s) =
      answer (leafWith onProgram chosen problem params s) := by
    rw [runs]
    refine steady t (probes.mono (tried_subset works) ?_) chosen isLeaf problem (by simp)
    exact List.forall_mem_singleton.2 List.mem_cons_self
  refine ⟨⟨before, after, t, shape, failing, stops, upTo ▸ probes, runs⟩, same, fun last none => ?_⟩
  have fails : works chosen = false := none _ isLeaf
  have nothing : after = [] := stops.resolve_left (Bool.eq_false_iff.1 fails)
  have empty : chosen = .none := by
    rw [shape, nothing, List.getLast?_concat] at last
    exact Option.some.inj last
  rw [same, empty]
  rfl

/-- The first leaves find no solver and no executable; the last one is not tried. -/
def nested : Solver :=
  chain (chain none (program (.ofKind .cbc)))
    (chain (program (.ofKind .gurobi)) (program (.ofKind .glpk)))

def infeasibleHost : Host :=
  ⟨.empty, [("gurobi_cl", [⟨0, "Model is infeasible".toUTF8, .none⟩])], []⟩

/-- A problem with a name that is too long for a file. -/
def longNamed : Problem := { Problem.probe with name := String.ofList (List.replicate 300 'n') }

theorem runWith_choose_nested :
    nested.leaves = [.none, some (.ofKind .cbc), some (.ofKind .gurobi), some (.ofKind .glpk)] ∧
      answer (nested.run longNamed .default infeasibleHost) = .error (.problemFile "gurobi_cl") := by
  have regular : Host.Regular infeasibleHost.installed := by
    intro command responses there
    refine ⟨⟨0, "Model is infeasible".toUTF8, .none⟩, ?_⟩
    simp only [infeasibleHost, List.lookup_cons, List.lookup_nil] at there
    split at there
    · cases there
      simp
    · cases there
  have fresh : ∀ p, some p ∈ nested.leaves → p.solutionFile = .none := by
    simp [nested, leaves, none, program, Program.ofKind]
  have steady := steady_of_regular regular fresh [.probe, longNamed] .default
  obtain ⟨-, same, -⟩ := runWith_choose Program.run nested longNamed .default infeasibleHost steady
  have chosen : choose (solvesProbe (leafWith Program.run) .default infeasibleHost) nested.leaves =
      some (.ofKind .gurobi) := by decide +kernel
  have long : ¬Scratch.fits longNamed.name ".lp" = true := by decide +kernel
  have failed : (Program.ofKind .gurobi).run longNamed .default infeasibleHost =
      .error (.problemFile "gurobi_cl") infeasibleHost := by
    unfold Program.run Program.place
    rw [if_neg long]
    rfl
  rw [← run_eq_runWith, chosen] at same
  exact ⟨rfl, same.trans (congrArg answer failed)⟩

end Solver

end LinProg
