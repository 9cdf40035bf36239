import Mathlib
import LinProg.Proofs.Matrix.Progress
import LinProg.Proofs.Matrix.Reachable
import LinProg.Proofs.Matrix.Solve

/-!
# The solution that a matrix stores

A solution is stored with the body that was handed to the solver, and dropped as soon as an edit is
carried out: `Current`.  `Command` lists the operations on a matrix, so that a run of them can be
followed together with the body that was handed over last.  Such runs lead to the reachable matrices:
`reachable_iff`.
-/

namespace LinProg.Matrix
open Operation

variable {m n : Matrix} {carried : List Edit} {last : Option Body}

/-- Values are there if the status says so, and they belong to the body that was handed over. -/
structure Current (m : Matrix) (last : Option Body) : Prop where
  available : m.values.isSome = m.status.hasSolution
  body : m.status.hasSolution = true → last = some m.body

theorem current_of_loaded (loaded : m.status = .loaded) (none : m.values = none)
    (last : Option Body) : m.Current last := by
  constructor
  · rw [loaded, none]
    rfl
  · rw [loaded]
    exact nofun

theorem current_ofDocument (d : Lp.Document) (last : Option Body) : (ofDocument d).Current last :=
  current_of_loaded rfl rfl last

theorem current_store (m : Matrix) (s : Solution) : (m.store s).Current (some m.body) := by
  refine ⟨?_, fun _ => rfl⟩
  unfold store
  dsimp only
  split
  · rename_i solved
    rw [solved]
    rfl
  · rename_i unsolved
    exact (Bool.eq_false_of_not_eq_true unsolved).symm

theorem Current.carries {asked : List Edit} (current : m.Current last)
    (carries : m.Carries asked carried n) : n.Current last := by
  -- with nothing carried out all stays; otherwise there is no solution that could be out of date
  cases carried with
  | nil =>
    obtain ⟨status, values⟩ := carries.kept rfl
    have body : n.body = m.body := carries.body
    constructor
    · rw [status, values]
      exact current.available
    · rw [status, body]
      exact current.body
  | cons e rest =>
    obtain ⟨status, values⟩ := carries.dropped (List.cons_ne_nil e rest)
    exact current_of_loaded status values last

/-- What a solve left is the same, and what is flushed as well. -/
structure Kept (m n : Matrix) : Prop where
  body : n.body = m.body
  status : n.status = m.status
  values : n.values = m.values

theorem Carries.kept_of_queue {asked : List Edit} (carries : m.Carries asked carried n)
    (nothing : asked = []) (waiting : m.queue = []) : m.Kept n := by
  have queue := carries.queue
  rw [waiting, nothing, List.append_nil, List.nil_eq, List.append_eq_nil_iff] at queue
  obtain ⟨none, -⟩ := queue
  have body := carries.body
  rw [none] at body
  obtain ⟨status, values⟩ := carries.kept none
  exact ⟨body, status, values⟩

/-! ### Reading -/

/-- What can be read of a solution, and that it is one of the body that was handed over. -/
structure SolutionOf (m : Matrix) (last : Option Body) : Prop where
  readable : m.status.hasSolution = true →
    (∃ x, Gives (m.columnAttribute .value) m.body.columns.length x) ∧
      ∃ value, m.objectiveValue = .ok value
  unreadable : m.status.hasSolution = false →
    (∀ columns, m.columnAttribute .value columns = .error (.unavailable "X")) ∧
      m.objectiveValue = .error (.unavailable "ObjVal")
  body : m.status.hasSolution = true → last = some m.body

theorem Current.solutionOf (current : m.Current last) : m.SolutionOf last := by
  obtain ⟨available, body⟩ := current
  refine ⟨?_, ?_, body⟩
  · intro solved
    rw [solved, Option.isSome_iff_exists] at available
    obtain ⟨v, values⟩ := available
    refine ⟨⟨fun i => v.columns.getD i 0, ?_⟩, v.objective, ?_⟩
    · unfold columnAttribute columnAttribute?
      rw [values]
      exact gives_pick fun _ _ => rfl
    · unfold objectiveValue
      rw [values]
  · intro unsolved
    rw [unsolved, Option.isSome_eq_false_iff, Option.isNone_iff_eq_none] at available
    unfold columnAttribute columnAttribute? objectiveValue
    rw [available]
    exact ⟨fun _ => rfl, rfl⟩

/-! ### Commands -/

/-- An operation on a matrix, as data. -/
inductive Command where
  | addColumns (lowers uppers : List Float) (objectives : Option (List Float))
      (domains : Option (List Domain)) (names : Option (List (Option String)))
  | addColumn (column : MatrixColumn) (memberships : List (Nat × Float))
  | addRow (terms : List (Nat × Float)) (relation : Relation) (rhs : Float) (name : Option String)
  | setObjective (terms : List (Nat × Float)) (constant : Float) (sense : Sense)
  | changeCoefficients (rows columns : List Nat) (values : List Float)
  | setRhs (row : Nat) (rhs : Float)
  | setObjectiveCoefficient (column : Nat) (coefficient : Float)
  | setDomain (column : Nat) (domain : Domain)
  | setColumnName (column : Nat) (name : String)
  | setRowName (row : Nat) (name : String)
  | flush
  | optimize (solver : Solver) (params : Params) (host : Host)
  | writeTo (disk : Disk) (path : String)

/-- How an operation ends, and the matrix that it leaves. -/
def ended {α : Type} : EStateM.Result MatrixError Matrix α → Except MatrixError Unit × Matrix
  | .ok _ m => (.ok (), m)
  | .error cause m => (.error cause, m)

theorem snd_ended {α : Type} (result : EStateM.Result MatrixError Matrix α) :
    (ended result).2 = final result := by
  cases result <;> rfl

namespace Command

def run : Command → Matrix → Except MatrixError Unit × Matrix
  | addColumns lowers uppers objectives domains names, m =>
    ended (Matrix.addColumns lowers uppers objectives domains names m)
  | addColumn column memberships, m => ended (Matrix.addColumn column memberships m)
  | addRow terms relation rhs name, m => ended (Matrix.addRow terms relation rhs name m)
  | setObjective terms constant sense, m => ended (Matrix.setObjective terms constant sense m)
  | changeCoefficients rows columns values, m =>
    ended (Matrix.changeCoefficients rows columns values m)
  | setRhs row rhs, m => ended (Matrix.setRhs row rhs m)
  | setObjectiveCoefficient column coefficient, m =>
    ended (Matrix.setObjectiveCoefficient column coefficient m)
  | setDomain column domain, m => ended (Matrix.setDomain column domain m)
  | setColumnName column name, m => ended (Matrix.setColumnName column name m)
  | setRowName row name, m => ended (Matrix.setRowName row name m)
  | flush, m => ended (flushM m)
  | optimize solver params host, m =>
    let (result, n, _) := m.optimize solver params host
    (result.map fun _ => (), n)
  | writeTo disk path, m => ended (Matrix.writeTo disk path m)

def edits : Command → List Edit
  | addColumns lowers uppers objectives domains names =>
    [.addColumns (columnsOf lowers uppers objectives domains names)]
  | addColumn column memberships => [.addColumn column memberships]
  | addRow terms relation rhs name => [.addRow ⟨terms, relation, rhs, name⟩]
  | setObjective terms constant sense => [.setObjective terms constant sense]
  | changeCoefficients rows columns values =>
    [.changeCoefficients (rows.zip (columns.zip values))]
  | setRhs row rhs => [.setRhs row rhs]
  | setObjectiveCoefficient column coefficient => [.setObjectiveCoefficient column coefficient]
  | setDomain column domain => [.setDomain column domain]
  | setColumnName column name => [.setColumnName column name]
  | setRowName row name => [.setRowName row name]
  | flush | optimize .. | writeTo .. => []

/-- The edits that a command queues in a matrix. -/
def queued (c : Command) (m : Matrix) : List Edit := if (c.run m).1.isOk then c.edits else []

/-- Whether a command is a solve that finds something to store. -/
def solves (c : Command) (m : Matrix) : Bool :=
  match c with
  | optimize .. => (c.run m).1.isOk
  | _ => false

end Command

/-! ### What a command can do -/

/-- What a command can do to a matrix: queue its edit, flush, store a solution after a flush, or fail,
and flush all the same if it is not an edit. -/
inductive Effect (edits : List Edit) (m : Matrix) : Bool → Except MatrixError Unit × Matrix → Prop
  | queue {e : Edit} (columns rows : Nat) :
    edits = [e] → Effect edits m false (.ok (), m.grown e columns rows)
  | flush : edits = [] → Effect edits m false (.ok (), m.flush)
  | store (s : Solution) : Effect edits m true (.ok (), m.flush.store s)
  | refuse (cause : MatrixError) : Effect edits m false (.error cause, m)
  | fail (cause : MatrixError) : edits = [] → Effect edits m false (.error cause, m.flush)

theorem Queues.effect {α : Type} {op : MatrixM α} {accepts : Matrix → Prop} {value : Matrix → α}
    {e : Edit} {columns rows : Nat} (queues : Queues op accepts value e columns rows) (m : Matrix) :
    Effect [e] m false (ended (op m)) := by
  cases result : op m with
  | ok a n =>
    obtain ⟨-, -, rfl⟩ := queues.ok_iff.1 result
    exact .queue columns rows rfl
  | error cause n =>
    cases queues.harmless.of_error result
    exact .refuse cause

/-- A solve stores what the solver says about the flushed body, or leaves the matrix flushed. -/
theorem optimize_cases (m : Matrix) (solver : Solver) (params : Params) (host : Host) :
    (∃ s after, solver.run (m.flush.body.problem m.name) params host = .ok s after ∧
        m.optimize solver params host =
          (.ok (Status.ofOutcome s.outcome), m.flush.store s, after)) ∨
      ∃ cause after, solver.run (m.flush.body.problem m.name) params host = .error cause after ∧
        m.optimize solver params host = (.error (.solver cause), m.flush, after) := by
  unfold optimize
  simp only [name_flush]
  cases solver.run (m.flush.body.problem m.name) params host with
  | ok s after => exact .inl ⟨s, after, rfl, rfl⟩
  | error cause after => exact .inr ⟨cause, after, rfl, rfl⟩

theorem optimize_ok {solver : Solver} {params : Params} {host after : Host} {status : Status}
    (solved : m.optimize solver params host = (.ok status, n, after)) :
    ∃ solution, solver.run (m.flush.body.problem m.name) params host = .ok solution after ∧
      n = m.flush.store solution := by
  rcases m.optimize_cases solver params host with ⟨s, left, ran, same⟩ | ⟨cause, left, -, same⟩
  · rw [same] at solved
    cases solved
    exact ⟨s, ran, rfl⟩
  · rw [same] at solved
    cases solved

namespace Command

theorem effect (c : Command) (m : Matrix) : Effect c.edits m (c.solves m) (c.run m) := by
  cases c with
  | addColumns lowers uppers objectives domains names =>
    exact (queues_addColumns lowers uppers objectives domains names).effect m
  | addColumn column memberships => exact (queues_addColumn column memberships).effect m
  | addRow terms relation rhs name => exact (queues_addRow terms relation rhs name).effect m
  | setObjective terms constant sense => exact (queues_setObjective terms constant sense).effect m
  | changeCoefficients rows columns values =>
    exact (queues_changeCoefficients rows columns values).effect m
  | setRhs row rhs => exact (queues_setRhs row rhs).effect m
  | setObjectiveCoefficient column coefficient =>
    exact (queues_setObjectiveCoefficient column coefficient).effect m
  | setDomain column domain => exact (queues_setDomain column domain).effect m
  | setColumnName column name => exact (queues_setColumnName column name).effect m
  | setRowName row name => exact (queues_setRowName row name).effect m
  | flush => exact .flush rfl
  | optimize solver params host =>
    rcases m.optimize_cases solver params host with ⟨s, after, -, same⟩ | ⟨cause, after, -, same⟩
    · simp only [solves, run, same]
      exact .store s
    · simp only [solves, run, same]
      exact .fail _ rfl
  | writeTo disk path =>
    show Effect [] m false (ended _)
    cases result : Matrix.writeTo disk path m with
    | ok after n =>
      obtain ⟨-, rfl, -⟩ := writeTo_ok_iff.1 result
      exact .flush rfl
    | error cause n =>
      rcases writeTo_error result with rfl | rfl
      · exact .refuse cause
      · exact .fail cause rfl

theorem queued_error {c : Command} {cause : MatrixError} (failed : c.run m = (.error cause, n)) :
    c.queued m = [] := by
  unfold queued
  rw [failed]
  rfl

theorem queued_ok {c : Command} (done : c.run m = (.ok (), n)) : c.queued m = c.edits := by
  unfold queued
  rw [done]
  rfl

/-- A command that stores no solution queues its edits, and carries out edits that wait, or none. -/
theorem run_carries (c : Command) (stays : c.solves m = false) :
    ∃ carried, m.Carries (c.queued m) carried (c.run m).2 := by
  have effect := c.effect m
  rw [stays] at effect
  generalize result : c.run m = end' at effect
  cases effect with
  | queue columns rows edits =>
    rw [queued_ok result, edits]
    exact ⟨[], (Carries.refl m).grown _ columns rows⟩
  | flush edits =>
    rw [queued_ok result, edits]
    exact ⟨_, (Carries.refl m).flush⟩
  | refuse cause =>
    rw [queued_error result]
    exact ⟨[], .refl m⟩
  | fail cause edits =>
    rw [queued_error result]
    exact ⟨_, (Carries.refl m).flush⟩

/-- A command that fails leaves the matrix as it was, or flushed if it is not an edit. -/
theorem run_error {c : Command} {cause : MatrixError} (failed : c.run m = (.error cause, n)) :
    n = m ∨ c.edits = [] ∧ n = m.flush := by
  have effect := c.effect m
  rw [failed] at effect
  generalize c.solves m = solves at effect
  cases effect with
  | refuse => exact .inl rfl
  | fail _ edits => exact .inr ⟨edits, rfl⟩

theorem run_solves {c : Command} (solves : c.solves m = true) :
    ∃ s, (c.run m).2 = m.flush.store s := by
  have effect := c.effect m
  rw [solves] at effect
  generalize c.run m = end' at effect
  cases effect with
  | store s => exact ⟨s, rfl⟩

/-- The body that was handed over last, once a command is carried out. -/
def handed (c : Command) (m : Matrix) (last : Option Body) : Option Body :=
  if c.solves m then some m.flush.body else last

theorem current_run (c : Command) (current : m.Current last) :
    (c.run m).2.Current (c.handed m last) := by
  unfold Command.handed
  cases solves : c.solves m with
  | true =>
    -- the flushed body is handed over, and it is what the solution is stored with
    obtain ⟨s, stored⟩ := run_solves solves
    rw [stored]
    exact current_store m.flush s
  | false =>
    obtain ⟨carried, carries⟩ := c.run_carries solves
    exact current.carries carries

end Command

/-! ### Runs -/

/-- A matrix to start from: an empty one, or one from a model file. -/
inductive Initial : Matrix → Prop
  | empty (name : String) : Initial (.empty name)
  | readFrom {disk : Disk} {path : String} {m : Matrix} : readFrom disk path = .ok m → Initial m

theorem Initial.current (initial : m.Initial) (last : Option Body) : m.Current last := by
  cases initial with
  | empty name => exact current_of_loaded rfl rfl last
  | readFrom read =>
    obtain ⟨-, -, d, -, -, rfl⟩ := readFrom_ok_iff.1 read
    exact current_ofDocument d last

def after (commands : List Command) (m : Matrix) : Matrix :=
  commands.foldl (fun m c => (c.run m).2) m

/-- The body that was handed over in the last solve that found something to store. -/
def handed : List Command → Matrix → Option Body → Option Body
  | [], _, last => last
  | c :: commands, m, last => handed commands (c.run m).2 (c.handed m last)

theorem current_after (commands : List Command) (current : m.Current last) :
    (m.after commands).Current (m.handed commands last) := by
  induction commands generalizing m last with
  | nil => exact current
  | cons c commands ih => exact ih (c.current_run current)

/-! ### Commands and steps -/

theorem Command.step (c : Command) (m : Matrix) : Step m (c.run m).2 := by
  cases c with
  | optimize solver params host => exact .optimize solver params host
  | flush => exact .flush
  | addColumns => exact snd_ended _ ▸ .addColumns ..
  | addColumn => exact snd_ended _ ▸ .addColumn ..
  | addRow => exact snd_ended _ ▸ .addRow ..
  | setObjective => exact snd_ended _ ▸ .setObjective ..
  | changeCoefficients => exact snd_ended _ ▸ .changeCoefficients ..
  | setRhs => exact snd_ended _ ▸ .setRhs ..
  | setObjectiveCoefficient => exact snd_ended _ ▸ .setObjectiveCoefficient ..
  | setDomain => exact snd_ended _ ▸ .setDomain ..
  | setColumnName => exact snd_ended _ ▸ .setColumnName ..
  | setRowName => exact snd_ended _ ▸ .setRowName ..
  | writeTo => exact snd_ended _ ▸ .writeTo ..

theorem Step.command (step : Step m n) : ∃ c : Command, (c.run m).2 = n := by
  cases step with
  | addColumns => exact ⟨.addColumns .., snd_ended _⟩
  | addColumn => exact ⟨.addColumn .., snd_ended _⟩
  | addRow => exact ⟨.addRow .., snd_ended _⟩
  | setObjective => exact ⟨.setObjective .., snd_ended _⟩
  | changeCoefficients => exact ⟨.changeCoefficients .., snd_ended _⟩
  | setRhs => exact ⟨.setRhs .., snd_ended _⟩
  | setObjectiveCoefficient => exact ⟨.setObjectiveCoefficient .., snd_ended _⟩
  | setDomain => exact ⟨.setDomain .., snd_ended _⟩
  | setColumnName => exact ⟨.setColumnName .., snd_ended _⟩
  | setRowName => exact ⟨.setRowName .., snd_ended _⟩
  | flush => exact ⟨.flush, rfl⟩
  | optimize solver params host => exact ⟨.optimize solver params host, rfl⟩
  | writeTo => exact ⟨.writeTo .., snd_ended _⟩

theorem after_concat (commands : List Command) (c : Command) (m : Matrix) :
    m.after (commands ++ [c]) = (c.run (m.after commands)).2 := by
  unfold after
  rw [List.foldl_append]
  rfl

/-- Runs of commands lead to the reachable matrices and to no others. -/
theorem reachable_iff :
    m.Reachable ↔ ∃ (start : Matrix) (commands : List Command), start.Initial ∧
      start.after commands = m := by
  constructor
  · intro reach
    induction reach with
    | empty name => exact ⟨_, [], .empty name, rfl⟩
    | readFrom read => exact ⟨_, [], .readFrom read, rfl⟩
    | step _ step ih =>
      obtain ⟨start, commands, initial, rfl⟩ := ih
      obtain ⟨c, rfl⟩ := step.command
      exact ⟨start, commands ++ [c], initial, after_concat commands c start⟩
  · rintro ⟨start, commands, initial, rfl⟩
    induction commands using List.reverseRecOn with
    | nil =>
      cases initial with
      | empty name => exact .empty name
      | readFrom read => exact .readFrom read
    | append_singleton commands c ih =>
      rw [after_concat]
      exact .step ih (c.step _)

end LinProg.Matrix
