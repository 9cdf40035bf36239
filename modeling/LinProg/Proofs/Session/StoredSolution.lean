import Mathlib
import LinProg.Proofs.Matrix.StoredSolution
import LinProg.Proofs.Session.Edits

/-!
# The solution of a model

Calls on a model, like commands on its matrix, drop what a solve left as soon as an edit is carried out:
`Call.run_carries`.  So what can be read belongs to the flushed columns and rows as they are:
`stored_solution_current`.
-/

namespace LinProg
open Operation

namespace Model

variable {m : Model} {vs : List Variable} {last : Option Body}

theorem variableAttribute_eq (what : ColumnAttribute) (owned : ∀ v ∈ vs, m.ownsColumn v.ref = true) :
    variableAttribute what vs m =
      lookUp (m.matrix.columnAttribute what (vs.map fun v => v.ref.index)) m := by
  have checked : (vs.mapM fun v => checkVariable v.ref) m = .ok (vs.map fun v => v.ref.index) m := by
    refine (mapM_ok_iff (fun v : Variable => keeps_checkVariable v.ref) ?_).2 ⟨rfl, rfl, ?_⟩
    · intro v m index n done
      exact (checkVariable_ok_iff.1 done).2.1
    · intro v listed
      exact checkVariable_ok_iff.2 ⟨rfl, rfl, owned v listed⟩
  unfold variableAttribute
  show EStateM.bind _ _ m = _
  unfold EStateM.bind
  rw [checked]
  rfl

/-- What can be read of a solution through a model, and that it is one of the body that was handed
over. -/
structure SolutionOf (m : Model) (last : Option Body) : Prop where
  readable : m.matrix.status.hasSolution = true →
    (∀ vs : List Variable,
      (∀ v ∈ vs, m.ownsColumn v.ref = true ∧ v.ref.index < m.matrix.body.columns.length) →
        ∃ xs, values vs m = .ok xs m) ∧
      ∃ x, objectiveValue m = .ok x m
  unreadable : m.matrix.status.hasSolution = false →
    (∀ vs : List Variable, (∀ v ∈ vs, m.ownsColumn v.ref = true) →
      values vs m = .error (.matrix (.unavailable "X")) m) ∧
      objectiveValue m = .error (.matrix (.unavailable "ObjVal")) m
  body : m.matrix.status.hasSolution = true → last = some m.matrix.body

theorem solutionOf (matrix : m.matrix.SolutionOf last) : m.SolutionOf last := by
  obtain ⟨readable, unreadable, body⟩ := matrix
  refine ⟨?_, ?_, body⟩
  · intro solved
    obtain ⟨⟨x, gives⟩, value, objective⟩ := readable solved
    refine ⟨?_, value, ?_⟩
    · intro vs inside
      refine ⟨(vs.map fun v => v.ref.index).map x, ?_⟩
      have read := gives (vs.map fun v => v.ref.index) (List.forall_mem_map.2 fun v listed =>
        (inside v listed).2)
      unfold values
      rw [variableAttribute_eq .value fun v listed => (inside v listed).1, read]
      rfl
    · show lookUp m.matrix.objectiveValue m = _
      rw [objective]
      rfl
  · intro unsolved
    obtain ⟨value, objective⟩ := unreadable unsolved
    constructor
    · intro vs owned
      unfold values
      rw [variableAttribute_eq .value owned, value]
      rfl
    · show lookUp m.matrix.objectiveValue m = _
      rw [objective]
      rfl

/-- A solve stores what the solver says about the flushed body, or leaves the model flushed. -/
theorem solve_cases (m : Model) (host : Host) :
    (∃ s after,
        m.env.solver.run (m.matrix.flush.body.problem m.matrix.name) m.env.params host =
          .ok s after ∧
        m.solve host = (.ok (Status.ofOutcome s.outcome = .optimal),
          { m with matrix := m.matrix.flush.store s }, after)) ∨
      ∃ cause after,
        m.env.solver.run (m.matrix.flush.body.problem m.matrix.name) m.env.params host =
          .error cause after ∧
        m.solve host = (.error (.matrix (.solver cause)), m.flushed, after) := by
  unfold solve
  rcases m.matrix.optimize_cases m.env.solver m.env.params host with
    ⟨s, after, ran, same⟩ | ⟨cause, after, ran, same⟩
  · rw [same]
    exact .inl ⟨s, after, ran, rfl⟩
  · rw [same]
    exact .inr ⟨cause, after, ran, rfl⟩

end Model

/-! ### Calls -/

namespace Call

variable {s : Session} {installed : List (String × List Response)} {last : Option Body}

theorem run_solve_eq {result : Except ModelError Bool} {m : Model} {after : Host}
    (solved : s.model.solve (s.workspace.host installed) = (result, m, after)) :
    (solve installed).run s = (.solved result after.launches, ⟨s.workspace.adopt after, m⟩) := by
  simp only [run, solved]

/-- Whether a call is a solve that finds something to store. -/
def solves : Call → Answer → Bool
  | solve _, .solved (.ok _) _ => true
  | _, _ => false

theorem run_solves (found : (solve installed).solves ((solve installed).run s).1 = true) :
    ∃ solution after,
      s.model.env.solver.run (s.model.matrix.flush.body.problem s.model.matrix.name)
        s.model.env.params (s.workspace.host installed) = .ok solution after ∧
      ((solve installed).run s).2.model.matrix = s.model.matrix.flush.store solution := by
  rcases s.model.solve_cases (s.workspace.host installed) with
    ⟨solution, after, ran, same⟩ | ⟨cause, after, -, same⟩
  · rw [run_solve_eq same]
    exact ⟨solution, after, ran, rfl⟩
  · rw [run_solve_eq same] at found
    cases found

/-- A call that neither stores a solution nor imports queues its edits, and carries out edits that wait,
or none. -/
theorem run_carries (call : Call) (sound : s.Sound) (listed : s.model.Listed)
    (stays : call.imports (call.run s).1 = false) (unsolved : call.solves (call.run s).1 = false) :
    ∃ carried, s.model.matrix.Carries (call.edits s) carried (call.run s).2.model.matrix := by
  cases call with
  | request r => exact (takes_request r sound listed).matrix
  | solve installed =>
    rcases s.model.solve_cases (s.workspace.host installed) with
      ⟨solution, after, -, same⟩ | ⟨cause, after, -, same⟩
    · rw [run_solve_eq same] at unsolved
      cases unsolved
    · rw [run_solve_eq same]
      exact ⟨_, (Matrix.Carries.refl s.model.matrix).flush⟩
  | exportModel path => exact (takes_export path s).matrix
  | importModel path =>
    rw [run_import_refused stays]
    exact ⟨[], .refl s.model.matrix⟩
  | others disk drawn => exact ⟨[], .refl s.model.matrix⟩

/-- The body that was handed over last, once a call is made. -/
def handed (call : Call) (s : Session) (last : Option Body) : Option Body :=
  if call.solves (call.run s).1 then some s.model.matrix.flush.body else last

theorem current_run (call : Call) (sound : s.Sound) (listed : s.model.Listed)
    (current : s.model.matrix.Current last) :
    (call.run s).2.model.matrix.Current (call.handed s last) := by
  unfold handed
  cases solved : call.solves (call.run s).1 with
  | true =>
    cases call with
    | solve installed =>
      obtain ⟨solution, -, -, stored⟩ := run_solves solved
      rw [stored]
      exact Matrix.current_store s.model.matrix.flush solution
    | _ => cases solved
  | false =>
    cases imports : call.imports (call.run s).1 with
    | true =>
      -- a matrix from a file was never solved
      obtain ⟨d, read, -, -⟩ := run_imports imports
      rw [read]
      exact Matrix.current_ofDocument d last
    | false =>
      obtain ⟨carried, carries⟩ := call.run_carries sound listed imports solved
      exact current.carries carries

end Call

namespace Session

variable {s : Session} {last : Option Body}

/-- The body that was handed over in the last solve that found something to store. -/
def handed : List Call → Session → Option Body → Option Body
  | [], _, last => last
  | call :: calls, s, last => handed calls (call.run s).2 (call.handed s last)

theorem current_after (calls : List Call) (sound : s.Sound) (listed : s.model.Listed)
    (current : s.model.matrix.Current last) :
    (s.after calls).model.matrix.Current (s.handed calls last) := by
  induction calls generalizing s last with
  | nil => exact current
  | cons call calls ih =>
    exact ih (call.sound_run sound) (call.listed_run sound listed)
      (call.current_run sound listed current)

/-- Whatever operations lead to a matrix, and whatever calls lead to a model: a solution can be read just
if the status says so, and it is one of the flushed body, which was handed to the solver in the last solve
that found something to store.  Each further operation but such a solve, or an import, drops the solution
if it carries out an edit, and keeps it otherwise. -/
theorem stored_solution_current :
    (∀ (start : Matrix) (commands : List Matrix.Command), start.Initial →
      let m := start.after commands
      m.SolutionOf (start.handed commands none) ∧
        (∀ c : Matrix.Command, c.solves m = false →
          (∃ carried, m.Carries (c.queued m) carried (c.run m).2) ∧
            (c.queued m = [] → m.queue = [] → m.Kept (c.run m).2)) ∧
        (∀ (c : Matrix.Command) (cause : MatrixError) (n : Matrix),
          c.run m = (.error cause, n) → n = m ∨ c.edits = [] ∧ n = m.flush) ∧
        ∀ (solver : Solver) (params : Params) (host after : Host) (status : Status) (n : Matrix),
          m.optimize solver params host = (.ok status, n, after) →
            ∃ solution, solver.run (m.flush.body.problem m.name) params host = .ok solution after ∧
              n = m.flush.store solution) ∧
    ∀ (w : Workspace) (name : String) (env : Environment) (calls : List Call),
      let s := (create w name env).after calls
      let m := s.model.matrix
      s.model.SolutionOf ((create w name env).handed calls none) ∧
        (∀ call : Call, call.solves (call.run s).1 = false → call.imports (call.run s).1 = false →
          (∃ carried, m.Carries (call.edits s) carried (call.run s).2.model.matrix) ∧
            (call.edits s = [] → m.queue = [] → m.Kept (call.run s).2.model.matrix)) ∧
        (∀ (r : Request) (cause : ModelError) (n : Model),
          r.carryOut s.model = .error cause n → n = s.model) ∧
        ∀ installed : List (String × List Response),
          (Call.solve installed).solves ((Call.solve installed).run s).1 = true →
            ∃ solution after,
              s.model.env.solver.run (m.flush.body.problem m.name) s.model.env.params
                (s.workspace.host installed) = .ok solution after ∧
              ((Call.solve installed).run s).2.model.matrix = m.flush.store solution := by
  constructor
  · intro start commands initial m
    refine ⟨(Matrix.current_after commands (initial.current none)).solutionOf, ?_, ?_, ?_⟩
    · intro c stays
      obtain ⟨carried, carries⟩ := c.run_carries stays
      exact ⟨⟨carried, carries⟩, carries.kept_of_queue⟩
    · intro c cause n failed
      exact Matrix.Command.run_error failed
    · intro solver params host after status n solved
      exact Matrix.optimize_ok solved
  · intro w name env calls s m
    have start := sound_create w name env
    have sound : s.Sound := sound_after calls start
    have listed : s.model.Listed := listed_after calls start rfl
    have current : m.Current _ := current_after calls start rfl ((Matrix.Initial.empty name).current none)
    refine ⟨Model.solutionOf current.solutionOf, ?_, ?_, ?_⟩
    · intro call unsolved stays
      obtain ⟨carried, carries⟩ := call.run_carries sound listed stays unsolved
      exact ⟨⟨carried, carries⟩, carries.kept_of_queue⟩
    · intro r cause n failed
      exact r.failed_unchanged sound.matrix failed
    · intro installed found
      exact Call.run_solves found

def solvedFile : ByteArray := "Optimal - objective value 3\n      0 x     3   0\n".toUTF8

def solvedPrograms : List (String × List Response) := [("cbc", [⟨0, .empty, some solvedFile⟩])]

/-- After a solve one command fails, and the edit of another one waits. -/
def solvingCommands : List Matrix.Command :=
  [.addColumns [1] [4] none none (some [some "x"]), .setObjective [(0, 1)] 2 .minimize,
    .optimize (.program (.ofKind .cbc)) .default ⟨.empty, solvedPrograms, []⟩, .setRhs 0 1,
    .setColumnName 0 "y"]

def solvedVariable : Variable := ⟨⟨0, 0⟩, 1, 4, .continuous, some "x"⟩

def solvingCalls : List Call :=
  [.request (.addVariable 1 4 .continuous (some "x")),
    .request (.addRange 1 (.ofVariable solvedVariable) 4 (some "r")), .solve solvedPrograms]

/-- The expression of a row is replaced by the same expression. -/
def sameExpression : Call :=
  .request (.replaceExpression
    ⟨⟨0, 0⟩, 1, 4, some "r", .ofVariable solvedVariable,
      some ⟨⟨0, 1⟩, 0, 3, .continuous, some "r_slack"⟩⟩
    (.ofVariable solvedVariable))

theorem stored_solution_current_solvingCalls :
    let m := (Matrix.empty "test").after solvingCommands
    let s := (create .empty "test" ⟨.program (.ofKind .cbc), .default⟩).after solvingCalls
    (m.queue = [.setColumnName 0 "y"] ∧ (∃ value, m.objectiveValue = .ok value) ∧
      (Matrix.empty "test").handed solvingCommands none = some m.body ∧
      (∃ carried, m.Carries [] carried m.flush) ∧ m.flush.status = .loaded) ∧
    (∃ x, Model.objectiveValue s.model = .ok x s.model) ∧
      (match (sameExpression.run s).1 with | .range _ => true | _ => false) = true ∧
      s.model.matrix.Kept (sameExpression.run s).2.model.matrix := by
  obtain ⟨commands, calls⟩ := stored_solution_current
  constructor
  · obtain ⟨solution, further, -⟩ := commands (.empty "test") solvingCommands (.empty "test")
    have solved : ((Matrix.empty "test").after solvingCommands).status.hasSolution = true := by
      decide +kernel
    have unsolved : Matrix.Command.flush.solves ((Matrix.empty "test").after solvingCommands) = false :=
      rfl
    refine ⟨by decide +kernel, (solution.readable solved).2, solution.body solved, ?_, ?_⟩
    · exact (further .flush unsolved).1
    · decide +kernel
  · obtain ⟨solution, further, -⟩ :=
      calls .empty "test" ⟨.program (.ofKind .cbc), .default⟩ solvingCalls
    refine ⟨(solution.readable ?_).2, ?_, (further sameExpression rfl rfl).2 ?_ ?_⟩
    · decide +kernel
    · decide +kernel
    · decide +kernel
    · decide +kernel

end Session

end LinProg
