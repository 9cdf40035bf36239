import Mathlib
import LinProg.Proofs.Number.Rational
import LinProg.Proofs.Session.Edits
import LinProg.Proofs.Session.RangeRow
import LinProg.Proofs.Session.StoredSolution

/-!
# Replacing an expression again

A row whose expression was replaced is settled: the same replacement finds everything there.  Calls that
spare the row leave it settled, so the replacement can be repeated after them and changes nothing:
`replacing_again_changes_nothing`.
-/

namespace LinProg
open Operation

/-- The row of a range has what a replacement by an expression would install. -/
structure Range.Settled (range : Range) (expr : Expr) (r : MatrixRow) : Prop where
  entries : (RowDelta.between r.entries
    (Model.withSlack (Model.termsOf expr) range.slack)).isNoop = true
  rhs : (r.rhs == range.plan.rhs expr.constant) = true

namespace Model

variable {m n : Model} {range after copy : Range} {expr : Expr} {r : MatrixRow}

theorem settled_replaceExpression (h : replaceExpression range expr m = .ok after n)
    (coefficients : ∀ j, (wantedCoefficient range.ref.model expr range.slack j).isNaN = false)
    (rhs : (range.plan.rhs expr.constant).isNaN = false) :
    ∃ r, n.matrix.flush.body.rows[range.ref.index]? = some r ∧ range.Settled expr r := by
  obtain ⟨owned, mine, -⟩ := replaceExpression_ok h
  obtain ⟨installed, -, row⟩ := flush_row_replaceExpression h
  have numbers (j : Nat) :
      ((netCoefficients (withSlack (termsOf expr) range.slack)).getD j).isNaN = false := by
    have wanted := agrees_desired mine range.slack j
    rw [← row_live owned] at wanted
    exact wanted.not_isNaN (coefficients j)
  exact ⟨_, row, RowDelta.isNoop_again numbers, (agrees_updated ..).beq rhs⟩

theorem synced_flushed (m : Model) : m.flushed.synced = m.flushed := by
  unfold synced flushed
  rw [Matrix.flush_flush]
  split <;> rfl

/-- A replacement that finds its row settled flushes, and does nothing else. -/
theorem replaceExpression_of_settled (sound : m.matrix.Sound) (owned : m.ownsRow range.ref = true)
    (mine : m.ownsExpr expr) (slack : ∀ v ∈ range.slack, m.ownsColumn v.ref = true)
    (present : m.matrix.flush.body.rows[range.ref.index]? = some r) (settled : range.Settled expr r) :
    replaceExpression range expr m = .ok { range with expr } m.flushed := by
  obtain ⟨n, done⟩ := replaceExpression_succeeds sound owned mine slack
  obtain ⟨-, -, -, -, installed, there, same⟩ := replaceExpression_ok done
  cases present.symm.trans there
  have unchanged : ¬(r.rhs != range.plan.rhs expr.constant) = true := by
    simp [bne, settled.rhs]
  rw [withDelta, if_pos settled.entries, withRhs, if_neg unchanged, synced_flushed] at same
  rw [done, same]

theorem edits_of_settled (present : m.matrix.flush.body.rows[range.ref.index]? = some r)
    (settled : range.Settled expr r) : (Request.replaceExpression range expr).edits m = [] := by
  simp [Request.edits, present, replacementEdits, settled.entries, settled.rhs, bne]

theorem ownsColumn_of_le (id : n.id = m.id) (columns : m.matrix.columnCount ≤ n.matrix.columnCount)
    {ref : Ref} (owned : m.ownsColumn ref = true) : n.ownsColumn ref = true := by
  unfold ownsColumn
  rw [Bool.and_eq_true, decide_eq_true_eq, decide_eq_true_eq, id]
  exact ⟨column_live owned, (column_within owned).trans_le columns⟩

theorem ownsRow_of_present {ref : Ref} (sound : m.matrix.Sound) (live : ref.model = m.id)
    (present : m.matrix.flush.body.rows[ref.index]? = some r) : m.ownsRow ref = true := by
  unfold ownsRow
  rw [Bool.and_eq_true, decide_eq_true_eq, decide_eq_true_eq, ← Body.Sound.rowCount sound]
  exact ⟨live, (List.getElem?_eq_some_iff.1 present).1⟩

end Model

theorem Range.Settled.copy {copy range : Range} {expr : Expr} {r : MatrixRow}
    (settled : range.Settled expr r) (same : copy.IsCopyOf range) : copy.Settled expr r := by
  refine ⟨?_, ?_⟩
  · rw [same.slack]
    exact settled.entries
  · rw [same.plan]
    exact settled.rhs

namespace Session

variable {s : Session} {range after copy : Range} {expr : Expr} {replaced : Session}
  {before between : List Call}

/-- A row that all calls spare stays as it is, but for its name, if they leave it live. -/
theorem after_spares {ref : Ref} {calls : List Call} (spares : ∀ call ∈ calls, call.Spares ref)
    (sound : s.Sound) (drawn : ref.model < s.workspace.nextId)
    (live : ref.model = (s.after calls).model.id) :
    ref.model = s.model.id ∧
      s.model.matrix.columnCount ≤ (s.after calls).model.matrix.columnCount ∧
      Body.SameRow ref.index s.model.matrix.flush.body (s.after calls).model.matrix.flush.body := by
  induction calls generalizing s with
  | nil => exact ⟨live, Nat.le_refl _, .refl _ _⟩
  | cons call calls ih =>
    obtain ⟨first, rest⟩ := List.forall_mem_cons.1 spares
    obtain ⟨between, columns, same⟩ := ih rest (call.sound_run sound)
      (drawn.trans_le (call.nextId_le_run s)) live
    obtain ⟨here, columns', same'⟩ := Call.run_spares first sound drawn between
    exact ⟨here, columns'.trans columns, same'.trans same⟩

/-- After calls that spare its row, the replacement of an expression stands: the row is settled, and the
handles that the replacement needs are accepted. -/
theorem replacement_stands (sound : s.Sound)
    (first : (Call.request (.replaceExpression range expr)).run s = (.range after, replaced))
    (spares : ∀ call ∈ between, call.Spares range.ref)
    (live : range.ref.model = (replaced.after between).model.id)
    (coefficients : ∀ j,
      (Model.wantedCoefficient range.ref.model expr range.slack j).isNaN = false)
    (rhs : (range.plan.rhs expr.constant).isNaN = false) :
    let m := (replaced.after between).model
    m.matrix.Sound ∧ m.ownsRow range.ref = true ∧ m.ownsExpr expr ∧
      (∀ v ∈ range.slack, m.ownsColumn v.ref = true) ∧
      ∃ r, m.matrix.flush.body.rows[range.ref.index]? = some r ∧ range.Settled expr r := by
  intro m
  have sound' := Call.sound_run (.request (.replaceExpression range expr)) sound
  rw [first] at sound'
  obtain ⟨n, result, rfl⟩ := Call.carryOut_of_run first nofun
  obtain ⟨handle, done, -⟩ := Request.of_answer result
  obtain ⟨owned, mine, slack, -⟩ := Model.replaceExpression_ok done
  obtain ⟨r, installed, settled⟩ := Model.settled_replaceExpression done coefficients rhs
  have issued := Model.row_live owned
  obtain ⟨-, columns, spared⟩ := after_spares spares sound' (issued.trans_lt sound.drawn) live
  obtain ⟨name, present⟩ := spared r installed
  have id : m.id = s.model.id := live.symm.trans issued
  have grown : s.model.matrix.columnCount ≤ m.matrix.columnCount := by
    rw [← Model.columnCount_replaceExpression done]
    exact columns
  have last := (sound_after between sound').matrix
  exact ⟨last, Model.ownsRow_of_present last live present,
    fun t listed => Model.ownsColumn_of_le id grown (mine t listed),
    fun v needed => Model.ownsColumn_of_le id grown (slack v needed), _, present,
    settled.entries, settled.rhs⟩

/-- Once the expression of a range was replaced, and whatever is called then but spares its row, the same
replacement carries out what is queued and changes nothing: if nothing is queued, the session stays as it
is, with its status and its solution. -/
theorem replacing_again_changes_nothing {workspace : Workspace} {model : String} {env : Environment}
    (first : (Call.request (.replaceExpression range expr)).run
      ((create workspace model env).after before) = (.range after, replaced))
    (spares : ∀ call ∈ between, call.Spares range.ref)
    (live : range.ref.model = (replaced.after between).model.id)
    (coefficients : ∀ j,
      (Model.wantedCoefficient range.ref.model expr range.slack j).isNaN = false)
    (rhs : (range.plan.rhs expr.constant).isNaN = false) (same : copy.IsCopyOf range) :
    let s := replaced.after between
    let again := Request.replaceExpression copy expr
    (Call.request again).run s = (.range { copy with expr }, { s with model := s.model.flushed }) ∧
      again.edits s.model = [] ∧
      (s.model.matrix.queue = [] → (Call.request again).run s = (.range { copy with expr }, s)) := by
  intro s again
  obtain ⟨sound, owned, mine, slack, r, present, settled⟩ := replacement_stands
    (sound_after before (sound_create workspace model env)) first spares live coefficients rhs
  rw [← same.ref] at owned present
  rw [← same.slack] at slack
  have repeated := Model.replaceExpression_of_settled sound owned mine slack present
    (settled.copy same)
  have ran : (Call.request again).run s =
      (.range { copy with expr }, { s with model := s.model.flushed }) :=
    Call.run_ok (bind_ok_iff.2 ⟨_, _, repeated, rfl⟩)
  refine ⟨ran, Model.edits_of_settled present (settled.copy same), fun empty => ?_⟩
  have idle : s.model.flushed = s.model := by
    unfold Model.flushed
    rw [Matrix.flush_of_queue empty]
  rw [ran, idle]

def solvedSlack : Variable := ⟨⟨0, 1⟩, 0, 3, .continuous, some "r_slack"⟩

def solvedRange : Range :=
  ⟨⟨0, 0⟩, 1, 4, some "r", .ofVariable solvedVariable, some solvedSlack⟩

def rangeSession : Session :=
  (create .empty "test" ⟨.program (.ofKind .cbc), .default⟩).after
    [.request (.addVariable 1 4 .continuous (some "x")),
      .request (.addRange 1 (.ofVariable solvedVariable) 4 (some "r"))]

/-- An expression that mentions the slack variable of its range. -/
def slackExpr : Expr := (Expr.term solvedVariable 2).addTerm solvedSlack 3

/-- The expression is replaced; the model is solved, and the row is read. -/
theorem replacing_again_changes_nothing_solvedRange :
    let call := Call.request (.replaceExpression solvedRange slackExpr)
    let replaced := (call.run rangeSession).2
    let s := replaced.after [.solve solvedPrograms, .request (.rowCoefficients ⟨0, 0⟩)]
    let answer := Answer.range { solvedRange with expr := slackExpr }
    call.run rangeSession = (answer, replaced) ∧ s.model.matrix.status.hasSolution = true ∧
      call.run s = (answer, s) := by
  intro call replaced s answer
  have sound : rangeSession.Sound := sound_after _ (sound_create ..)
  have mine : rangeSession.model.ownsExpr slackExpr := by
    intro t listed
    rcases List.mem_cons.1 listed with rfl | listed
    · decide +kernel
    · cases List.mem_singleton.1 listed
      decide +kernel
  have owned : rangeSession.model.ownsRow solvedRange.ref = true := by decide +kernel
  have slack : ∀ v ∈ solvedRange.slack, rangeSession.model.ownsColumn v.ref = true := by
    rintro v ⟨⟩
    decide +kernel
  obtain ⟨n, done⟩ := Model.replaceExpression_succeeds sound.matrix owned mine slack
  have ran : call.run rangeSession = (answer, { rangeSession with model := n }) :=
    Call.run_ok (bind_ok_iff.2 ⟨_, _, done, rfl⟩)
  have first : call.run rangeSession = (answer, replaced) := by
    show _ = (answer, (call.run rangeSession).2)
    rw [ran]
  have spares : ∀ c ∈ [Call.solve solvedPrograms, .request (.rowCoefficients ⟨0, 0⟩)],
      c.Spares solvedRange.ref := by
    intro c listed
    rcases List.mem_cons.1 listed with rfl | listed
    · trivial
    · cases List.mem_singleton.1 listed
      trivial
  have coefficients (j : Nat) :
      (Model.wantedCoefficient 0 slackExpr (some solvedSlack) j).isNaN = false := by
    match j with
    | 0 => decide +kernel
    | 1 => decide +kernel
    | j + 2 =>
      have absent : slackExpr.terms.getD ⟨0, j + 2⟩ = 0 := rfl
      have other : ¬some solvedSlack.ref.index = some (j + 2) := nofun
      unfold Model.wantedCoefficient
      rw [absent, Option.map_some, if_neg other]
      decide +kernel
  obtain ⟨-, -, idle⟩ := replacing_again_changes_nothing first spares (by decide +kernel)
    coefficients (by decide +kernel) (.refl solvedRange)
  exact ⟨first, by decide +kernel, idle (by decide +kernel)⟩

end Session

end LinProg
