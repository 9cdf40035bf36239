import Mathlib
import LinProg.Proofs.Solver.Run

/-!
# Solution files that are kept

A program with a solution file of its own finds there what earlier runs have left.  A run removes the file
only once it has read it, so what a program wrote before it failed stays, until a later run reads or
overwrites it: `Round.run_ok_iff`.
-/

namespace LinProg
open Operation (bind_ok_iff bind_error_iff final)

/-! ### Reading reports -/

namespace CbcReport

variable {rowNames rowNames' : List String} {s s' : Solution}

theorem isOk_readLine (line : List Char) :
    (readLine rowNames s line).isOk = (readLine rowNames' s' line).isOk := by
  unfold readLine
  split
  · rfl
  · split
    · rename_i value dual _
      dsimp only
      cases readField value with
      | error cause => rfl
      | ok x =>
        cases readField dual with
        | error cause => rfl
        | ok y =>
          show (if _ then (Except.ok _ : Except ReportError Solution) else .ok _).isOk =
            (if _ then (Except.ok _ : Except ReportError Solution) else .ok _).isOk
          split <;> split <;> rfl
    · rfl

theorem isOk_readLines (lines : List (List UInt8)) :
    (readLines rowNames s lines).isOk = (readLines rowNames' s' lines).isOk := by
  induction lines generalizing s s' with
  | nil => rfl
  | cons bytes more ih =>
    unfold readLines
    cases Text.decodeLine bytes with
    | none => rfl
    | some line =>
      have alike : (readLine rowNames s line).isOk = (readLine rowNames' s' line).isOk :=
        isOk_readLine line
      dsimp only
      cases left : readLine rowNames s line <;> cases right : readLine rowNames' s' line <;>
        rw [left, right] at alike
      · rfl
      · cases alike
      · cases alike
      · exact ih

theorem isOk_read (problem problem' : Option Problem) (content : ByteArray) :
    (read problem content).isOk = (read problem' content).isOk := by
  unfold read
  dsimp only
  cases Text.byteLines content with
  | nil => rfl
  | cons header more =>
    dsimp only
    cases Text.decodeLine header with
    | none => rfl
    | some header =>
      cases outcome : readOutcome header with
      | error cause =>
        simp only [outcome]
        rfl
      | ok outcome' =>
        simp only [outcome]
        exact isOk_readLines more

end CbcReport

/-! ### Runs that keep a file -/

/-- What is written to a path, if that can be the path of a file. -/
def Response.written? (response : Response) (path : String) : Option ByteArray :=
  match Place.ofPath path with
  | .ok (.entry _) => response.solution
  | _ => none

namespace Program

/-- A program that has a solution file of its own, with the reader of Cbc or glpsol. -/
structure KeepsFile (p : Program) (path : String) : Prop where
  kind : p.kind = .cbc ∨ p.kind = .glpk
  file : p.solutionFile = some path

variable {p : Program} {path : String} {problem : Problem} {params : Params} {response : Response}
  {content : ByteArray} {s : Solution} {host : Host}

/-- After a program has run, a file has what was written, or what it had if nothing was. -/
theorem read_leave (h : Host) : (leave h path response.solution).disk.read path = .ok content ↔
    response.written? path = some content ∨
      response.written? path = none ∧ h.disk.read path = .ok content := by
  unfold Response.written? leave
  cases response.solution with
  | none =>
    have nothing : (match Place.ofPath path with
        | .ok (.entry _) => none
        | _ => none : Option ByteArray) = none := by
      split <;> rfl
    rw [nothing]
    simp
  | some bytes =>
    dsimp only
    cases place : Place.ofPath path with
    | error cause => simp [Disk.write, place]
    | ok place' =>
      cases place' with
      | entry name => simp [Disk.write, Disk.read, place]
      | directory | slashed name | beneath name => simp [Disk.write, place]

theorem disk_leave_record (h : Host) (launch : Launch) (solution : Option ByteArray) :
    (leave (h.record launch) path solution).disk = (leave h path solution).disk := by
  cases solution with
  | none => rfl
  | some bytes =>
    have same : (h.record launch).disk = h.disk := rfl
    unfold leave
    dsimp only
    rw [same]
    cases h.disk.write path bytes <;> rfl

theorem launch_of_response (problem : Problem) (params : Params) (path : String)
    (there : host.nextResponse? p.command = some response) :
    ∃ h, h.disk = (leave host path response.solution).disk ∧
      p.launch problem params (.kept path) host = if response.exitCode = 0 then .ok response h
        else .error (.exitStatus p.command response.exitCode) h := by
  let launch : Launch := ⟨p.command, p.arguments Scratch.problemPath path params, problem.text⟩
  refine ⟨leave (host.record launch) path response.solution, disk_leave_record .., ?_⟩
  unfold Program.launch
  by_cases succeeds : response.exitCode = 0
  · rw [if_pos succeeds]
    refine bind_ok_iff.2 ⟨host, host, rfl, ?_⟩
    rw [there]
    dsimp only
    rw [if_neg (not_not.2 succeeds)]
    rfl
  · rw [if_neg succeeds]
    refine bind_error_iff.2 (.inr ⟨host, host, rfl, ?_⟩)
    rw [there]
    dsimp only
    rw [if_pos succeeds]
    rfl

/-- A solution file is missing, cannot be read, or is read and removed. -/
theorem readSolution_cases (p : Program) (problem : Problem) (path : String) (h : Host) :
    (∃ cause, h.disk.read path = .error cause ∧
      p.readSolution (some problem) path h = .error (.solutionFile path cause) h) ∨
    ∃ content, h.disk.read path = .ok content ∧
      ((∃ cause, p.readReport (some problem) content = .error cause ∧
        p.readSolution (some problem) path h = .error (.report cause) h) ∨
      ∃ s, p.readReport (some problem) content = .ok s ∧
        p.readSolution (some problem) path h = .ok s { h with disk := h.disk.remove path }) := by
  cases there : h.disk.read path with
  | error cause =>
    refine .inl ⟨cause, rfl, bind_error_iff.2 (.inr ⟨h, h, rfl, ?_⟩)⟩
    rw [there]
    rfl
  | ok content =>
    refine .inr ⟨content, rfl, ?_⟩
    cases said : p.readReport (some problem) content with
    | error cause =>
      refine .inl ⟨cause, rfl, bind_error_iff.2 (.inr ⟨h, h, rfl, ?_⟩)⟩
      simp only [there, said]
      rfl
    | ok s => exact .inr ⟨s, rfl, readSolution_ok there said⟩

theorem readSolution_ok_iff {h : Host} : (∃ after, p.readSolution (some problem) path h = .ok s after) ↔
    ∃ content, h.disk.read path = .ok content ∧ p.readReport (some problem) content = .ok s := by
  constructor
  · rintro ⟨after, read⟩
    rcases p.readSolution_cases problem path h with
      ⟨_, -, fails⟩ | ⟨content, there, ⟨_, -, fails⟩ | ⟨found, said, returned⟩⟩
    · rw [fails] at read
      cases read
    · rw [fails] at read
      cases read
    · rw [returned] at read
      cases read
      exact ⟨content, there, said⟩
  · rintro ⟨content, there, said⟩
    exact ⟨_, readSolution_ok there said⟩

theorem read_after_readSolution {h : Host}
    (readable : (p.readReport (some problem) content).isOk = true) :
    (final (p.readSolution (some problem) path h)).disk.read path ≠ .ok content := by
  intro left
  rcases p.readSolution_cases problem path h with
    ⟨_, missing, fails⟩ | ⟨bytes, there, ⟨cause, told, fails⟩ | ⟨_, -, returned⟩⟩
  · rw [fails] at left
    cases missing.symm.trans left
  · rw [fails] at left
    cases there.symm.trans left
    rw [told] at readable
    cases readable
  · rw [returned] at left
    exact Disk.read_remove left

namespace KeepsFile

variable (keeps : p.KeepsFile path)
include keeps

theorem outcomeOfOutput?_eq (output : ByteArray) : p.outcomeOfOutput? output = none := by
  unfold outcomeOfOutput?
  rcases keeps.kind with cbc | glpk
  · rw [cbc]
  · rw [glpk]

theorem isOk_readReport (problem problem' : Option Problem) (content : ByteArray) :
    (p.readReport problem content).isOk = (p.readReport problem' content).isOk := by
  unfold readReport
  rcases keeps.kind with cbc | glpk
  · rw [cbc]
    exact CbcReport.isOk_read problem problem' content
  · rw [glpk]

theorem place_eq (problem : Problem) : p.place problem =
    if Scratch.fits problem.name ".lp" then pure (.kept path) else throw (.problemFile p.command) := by
  unfold place
  rw [keeps.file]
  by_cases fits : Scratch.fits problem.name ".lp" = true
  · rw [if_pos fits, if_pos fits]
  · rw [if_neg fits, if_neg fits]
    rfl

end KeepsFile

end Program

/-! ### Rounds -/

/-- A run to come, with all that it meets except for the disk. -/
structure Round where
  problem : Problem
  params : Params
  installed : List (String × List Response)
  launches : List Launch

namespace Round

def host (r : Round) (disk : Disk) : Host := ⟨disk, r.installed, r.launches⟩

/-- What the program does in this round, if it is launched. -/
def response? (r : Round) (p : Program) : Option Response :=
  if Scratch.fits r.problem.name ".lp" then (r.host .empty).nextResponse? p.command else none

def run (r : Round) (p : Program) (disk : Disk) : EStateM.Result SolverError Host Solution :=
  p.run r.problem r.params (r.host disk)

/-- The disk after some rounds. -/
def diskAfter (p : Program) (disk : Disk) (rounds : List Round) : Disk :=
  rounds.foldl (fun disk r => (final (r.run p disk)).disk) disk

/-- A round in which the program wrote to the file and failed. -/
def FailsOn (r : Round) (p : Program) (path : String) (content : ByteArray) : Prop :=
  ∃ response, r.response? p = some response ∧ response.exitCode ≠ 0 ∧
    response.written? path = some content

/-- A round that does not touch the file: the program is not launched, or fails without writing. -/
def Passes (r : Round) (p : Program) (path : String) : Prop :=
  ∀ response, r.response? p = some response → response.exitCode ≠ 0 ∧ response.written? path = none

/-- Rounds that leave some content: a failing one wrote it, and no later one touched the file. -/
def LeftBy (p : Program) (path : String) (content : ByteArray) (rounds : List Round) : Prop :=
  ∃ before r between, rounds = before ++ r :: between ∧ r.FailsOn p path content ∧
    ∀ q ∈ between, q.Passes p path

variable {p : Program} {path : String} {disk : Disk} {r : Round} {response : Response}
  {content : ByteArray} {s : Solution} {rounds : List Round}

theorem leftBy_concat : LeftBy p path content (rounds ++ [r]) ↔
    r.FailsOn p path content ∨ LeftBy p path content rounds ∧ r.Passes p path := by
  constructor
  · rintro ⟨before, q, between, shape, fails, pass⟩
    rcases List.eq_nil_or_concat' between with rfl | ⟨between, last, rfl⟩
    · obtain ⟨rfl, rfl⟩ := List.append_singleton_inj.1 shape
      exact .inl fails
    · rw [← List.cons_append, ← List.append_assoc] at shape
      obtain ⟨rfl, rfl⟩ := List.append_singleton_inj.1 shape
      obtain ⟨inner, outer⟩ := List.forall_mem_append.1 pass
      exact .inr ⟨⟨before, q, between, rfl, fails, inner⟩, outer _ (List.mem_singleton_self _)⟩
  · rintro (fails | ⟨⟨before, q, between, rfl, fails, pass⟩, last⟩)
    · exact ⟨rounds, r, [], rfl, fails, nofun⟩
    · refine ⟨before, q, between ++ [r], by simp, fails, ?_⟩
      exact List.forall_mem_append.2 ⟨pass, List.forall_mem_singleton.2 last⟩

section Kept

variable (keeps : p.KeepsFile path)
include keeps

theorem run_of_not_launched (disk : Disk) (missing : r.response? p = none) :
    ∃ cause, r.run p disk = .error cause (r.host disk) := by
  unfold response? at missing
  unfold run Program.run
  rw [keeps.place_eq]
  by_cases fits : Scratch.fits r.problem.name ".lp" = true
  · rw [if_pos fits] at missing ⊢
    have absent : (r.host disk).nextResponse? p.command = none := missing
    refine ⟨.launch p.command .notFound, bind_error_iff.2 (.inr ⟨_, _, rfl, ?_⟩)⟩
    refine bind_error_iff.2 (.inl (bind_error_iff.2 (.inr ⟨_, _, rfl, ?_⟩)))
    rw [absent]
    rfl
  · rw [if_neg fits]
    exact ⟨_, rfl⟩

/-- The program leaves its file and then fails, or its file is read. -/
theorem run_of_launched (disk : Disk) (launched : r.response? p = some response) :
    ∃ h, h.disk = (Program.leave (r.host disk) path response.solution).disk ∧
      r.run p disk = if response.exitCode = 0 then p.readSolution (some r.problem) path h
        else .error (.exitStatus p.command response.exitCode) h := by
  unfold response? at launched
  unfold run Program.run
  rw [keeps.place_eq]
  by_cases fits : Scratch.fits r.problem.name ".lp" = true
  · rw [if_pos fits] at launched ⊢
    have there : (r.host disk).nextResponse? p.command = some response := launched
    obtain ⟨h, same, launch⟩ := Program.launch_of_response r.problem r.params path there
    refine ⟨h, same, ?_⟩
    by_cases succeeds : response.exitCode = 0
    · rw [if_pos succeeds] at launch ⊢
      show EStateM.bind (p.launch r.problem r.params (.kept path)) _ (r.host disk) = _
      unfold EStateM.bind
      rw [launch]
      dsimp only
      rw [keeps.outcomeOfOutput?_eq]
      rfl
    · rw [if_neg succeeds] at launch ⊢
      exact bind_error_iff.2 (.inr ⟨_, _, rfl, bind_error_iff.2 (.inl launch)⟩)
  · rw [if_neg fits] at launched
    cases launched

/-- A run returns what it reads in a file that the program wrote in this run, or left as it was. -/
theorem run_ok_iff_reads : (∃ after, r.run p disk = .ok s after) ↔
    ∃ response content, r.response? p = some response ∧ response.exitCode = 0 ∧
      p.readReport (some r.problem) content = .ok s ∧
      (response.written? path = some content ∨
        response.written? path = none ∧ disk.read path = .ok content) := by
  cases launched : r.response? p with
  | none =>
    obtain ⟨cause, fails⟩ := run_of_not_launched keeps disk launched
    rw [fails]
    simp
  | some response =>
    obtain ⟨h, same, ran⟩ := run_of_launched keeps disk launched
    rw [ran]
    by_cases succeeds : response.exitCode = 0
    · rw [if_pos succeeds, Program.readSolution_ok_iff, same]
      simp only [Program.read_leave]
      constructor
      · rintro ⟨content, there, said⟩
        exact ⟨response, content, rfl, succeeds, said, there⟩
      · rintro ⟨_, content, ⟨⟩, -, said, there⟩
        exact ⟨content, there, said⟩
    · rw [if_neg succeeds]
      refine iff_of_false (fun ⟨_, returned⟩ => nomatch returned) ?_
      rintro ⟨_, _, ⟨⟩, zero, -⟩
      exact succeeds zero

/-- After a round, a file that can be read is there if the program wrote it and failed, or if it was there
and the round passed it by. -/
theorem read_after_run (readable : (p.readReport none content).isOk = true) :
    (final (r.run p disk)).disk.read path = .ok content ↔
      r.FailsOn p path content ∨ disk.read path = .ok content ∧ r.Passes p path := by
  unfold FailsOn Passes
  cases launched : r.response? p with
  | none =>
    obtain ⟨cause, fails⟩ := run_of_not_launched keeps disk launched
    rw [fails]
    show disk.read path = _ ↔ _
    simp
  | some response =>
    obtain ⟨h, same, ran⟩ := run_of_launched keeps disk launched
    rw [ran]
    by_cases succeeds : response.exitCode = 0
    · rw [if_pos succeeds]
      -- a successful program's file is removed if it can be read, whichever problem it is read for
      have consumed := keeps.isOk_readReport none (some r.problem) content ▸ readable
      refine iff_of_false (Program.read_after_readSolution consumed) ?_
      rintro (⟨_, ⟨⟩, fails, -⟩ | ⟨-, passes⟩)
      · exact fails succeeds
      · exact (passes response rfl).1 succeeds
    · rw [if_neg succeeds]
      show h.disk.read path = _ ↔ _
      rw [same, Program.read_leave]
      show _ ∨ _ ∧ disk.read path = _ ↔ _
      simp [succeeds, and_comm]

theorem read_diskAfter (absent : ∀ content, disk.read path ≠ .ok content)
    (readable : (p.readReport none content).isOk = true) (rounds : List Round) :
    (diskAfter p disk rounds).read path = .ok content ↔ LeftBy p path content rounds := by
  -- from the last round backwards, as what a round leaves depends only on the disk before it
  induction rounds using List.reverseRecOn with
  | nil =>
    refine iff_of_false (absent content) ?_
    rintro ⟨before, r, between, shape, -⟩
    simp at shape
  | append_singleton rounds r ih =>
    unfold diskAfter
    rw [List.foldl_append, leftBy_concat, ← ih]
    exact read_after_run keeps readable

end Kept

def keepingCbc : Program := (Program.ofKind .cbc).withSolutionFile "kept.sol"

def cbcReport : ByteArray := "Optimal - objective value 1\n 0 x 1 0\n".toUTF8

def cbcRound (response : Response) : Round := ⟨.probe, .default, [("cbc", [response])], []⟩

end Round

end LinProg
