import Mathlib
import LinProg.Proofs.Number.Rational
import LinProg.Proofs.Number.RoundTrip
import LinProg.Solver.Program

/-!
# What command lines say

The value of a parameter is the last one that was accepted for it, so it is in the domain of the parameter
however often it was set: `value_after`, `inDomain_after`.  The arguments of a program are laid out in one
order, with the two paths and an option for each parameter that the program knows, which is left out unless
the value differs from the usual one: `arguments_in_force`.
-/

namespace LinProg
open Number (rational rational? rational?_zero infinity)

/-! ### Settings -/

inductive Param where
  | int (param : IntParam)
  | real (param : RealParam)
deriving DecidableEq

inductive ParamValue where
  | int (n : Int)
  | real (x : Float)
deriving DecidableEq

inductive Setting where
  | int (param : IntParam) (value : Int)
  | real (param : RealParam) (value : Float)

namespace Setting

def param : Setting → Param
  | int param _ => .int param
  | real param _ => .real param

def value : Setting → ParamValue
  | int _ value => .int value
  | real _ value => .real value

def run (params : Params) : Setting → Except InvalidParam Params
  | int param value => params.setInt param value
  | real param value => params.setReal param value

end Setting

namespace Param

def Admits : Param → ParamValue → Prop
  | int param, .int n => param.accepts n = true
  | real param, .real x => param.accepts x = true
  | _, _ => False

instance : (q : Param) → (v : ParamValue) → Decidable (q.Admits v)
  | int param, .int n => inferInstanceAs (Decidable (param.accepts n = true))
  | real param, .real x => inferInstanceAs (Decidable (param.accepts x = true))
  | int _, .real _ => .isFalse id
  | real _, .int _ => .isFalse id

end Param

/-- The value that a call is accepted with for a parameter. -/
def Setting.accepted? (s : Setting) (q : Param) : Option ParamValue :=
  if s.param = q ∧ q.Admits s.value then some s.value else none

namespace Params

def value (params : Params) : Param → ParamValue
  | .int param => .int (params.getInt param)
  | .real param => .real (params.getReal param)

/-- The table after one call, which leaves it alone if it is refused. -/
def next (params : Params) (s : Setting) : Params :=
  match s.run params with
  | .ok set => set
  | .error _ => params

def after (params : Params) (settings : List Setting) : Params := settings.foldl next params

theorem run_cases (params : Params) (s : Setting) :
    (s.param.Admits s.value ∧ ∃ set, s.run params = .ok set ∧
      ∀ q, set.value q = if s.param = q then s.value else params.value q) ∨
    (¬s.param.Admits s.value ∧ ∃ cause, s.run params = .error cause) := by
  cases s with
  | int param x =>
    by_cases admitted : param.accepts x = true
    · refine .inl ⟨admitted, _, if_pos admitted, fun q => ?_⟩
      rcases q with q | q <;> cases param <;> cases q <;> rfl
    · exact .inr ⟨admitted, _, if_neg admitted⟩
  | real param x =>
    by_cases admitted : param.accepts x = true
    · refine .inl ⟨admitted, _, if_pos admitted, fun q => ?_⟩
      rcases q with q | q <;> cases param <;> cases q <;> rfl
    · exact .inr ⟨admitted, _, if_neg admitted⟩

theorem value_next (params : Params) (s : Setting) (q : Param) :
    (params.next s).value q = (s.accepted? q).getD (params.value q) := by
  unfold next Setting.accepted?
  obtain ⟨admitted, set, ran, values⟩ | ⟨refused, cause, ran⟩ := run_cases params s
  · rw [ran]
    dsimp only
    rw [values]
    by_cases same : s.param = q
    · rw [if_pos same, if_pos ⟨same, same ▸ admitted⟩]
      rfl
    · rw [if_neg same, if_neg fun h => same h.1]
      rfl
  · have never : ¬(s.param = q ∧ q.Admits s.value) := by
      rintro ⟨rfl, admitted⟩
      exact refused admitted
    rw [ran, if_neg never]
    rfl

theorem value_after (params : Params) (settings : List Setting) (q : Param) :
    (params.after settings).value q =
      ((settings.filterMap (·.accepted? q)).getLast?).getD (params.value q) := by
  induction settings generalizing params with
  | nil => rfl
  | cons s settings ih =>
    show ((params.next s).after settings).value q = _
    rw [ih, value_next, List.filterMap_cons]
    cases s.accepted? q with
    | none => rfl
    | some x => rw [List.getLast?_cons]; rfl

theorem Setting.admits_of_accepted? {s : Setting} {q : Param} {v : ParamValue}
    (accepted : s.accepted? q = some v) : q.Admits v := by
  unfold Setting.accepted? at accepted
  split at accepted
  · rename_i h
    cases accepted
    exact h.2
  · cases accepted

/-- No call brings a value into the table that is outside of its domain. -/
theorem admits_after (settings : List Setting) (q : Param) :
    q.Admits ((default.after settings).value q) := by
  rw [value_after]
  cases last : (settings.filterMap (·.accepted? q)).getLast? with
  | none =>
    show q.Admits (default.value q)
    rcases q with q | q <;> cases q <;> decide +kernel
  | some v =>
    obtain ⟨s, -, accepted⟩ := List.mem_filterMap.1 (List.mem_of_getLast? last)
    exact Setting.admits_of_accepted? accepted

/-- Each value is in its domain: limits, gaps and thread counts are not negative, and no value is
undefined. -/
structure InDomain (params : Params) : Prop where
  method : -1 ≤ params.method ∧ params.method ≤ 2
  threads : 0 ≤ params.threads
  updateMode : params.updateMode = 0 ∨ params.updateMode = 1
  timeLimit : 0 ≤ params.timeLimit
  intFeasTol : 1e-9 ≤ params.intFeasTol ∧ params.intFeasTol ≤ 1e-1
  mipGap : 0 ≤ params.mipGap ∧ params.mipGap.isFinite = true

theorem inDomain_after (settings : List Setting) : (default.after settings).InDomain where
  method := of_decide_eq_true (admits_after settings (.int .method))
  threads := of_decide_eq_true (admits_after settings (.int .threads))
  updateMode := of_decide_eq_true (admits_after settings (.int .updateMode))
  timeLimit := of_decide_eq_true (admits_after settings (.real .timeLimit))
  intFeasTol := by
    have admitted := admits_after settings (.real .intFeasTol)
    exact (Bool.and_eq_true_iff.1 admitted).imp of_decide_eq_true of_decide_eq_true
  mipGap := by
    have admitted := admits_after settings (.real .mipGap)
    exact (Bool.and_eq_true_iff.1 admitted).imp_left of_decide_eq_true

theorem InDomain.isNaN_getReal {params : Params} (h : params.InDomain) (param : RealParam) :
    (params.getReal param).isNaN = false := by
  cases param with
  | timeLimit => exact (Number.not_isNaN_of_le h.timeLimit).2
  | intFeasTol => exact (Number.not_isNaN_of_le h.intFeasTol.1).2
  | mipGap => exact (Number.not_isNaN_of_le h.mipGap.1).2

theorem InDomain.isFinite_timeLimit {params : Params} (h : params.InDomain) :
    params.timeLimit.isFinite = true ↔ params.timeLimit ≠ infinity :=
  Number.isFinite_iff_ne_infinity (by decide +kernel) h.timeLimit

theorem InDomain.isFinite_intFeasTol {params : Params} (h : params.InDomain) :
    params.intFeasTol.isFinite = true := by
  refine (Number.isFinite_iff_ne_infinity (by decide +kernel) h.intFeasTol.1).2 fun infinite => ?_
  have below := h.intFeasTol.2
  rw [infinite] at below
  exact absurd below (by decide +kernel)

/-! ### Values that are not the usual ones -/

/-- Whether a parameter has another value than in a table in which nothing is set. -/
def IsSet (params : Params) (q : Param) : Prop := params.value q ≠ default.value q

instance (params : Params) (q : Param) : Decidable (params.IsSet q) :=
  inferInstanceAs (Decidable (_ ≠ _))

variable {params : Params}

theorem isSet_int (params : Params) (param : IntParam) :
    params.IsSet (.int param) ↔ params.getInt param ≠ default.getInt param :=
  not_congr ⟨ParamValue.int.inj, congrArg _⟩

theorem isSet_real (params : Params) (param : RealParam) :
    params.IsSet (.real param) ↔ params.getReal param ≠ default.getReal param :=
  not_congr ⟨ParamValue.real.inj, congrArg _⟩

theorem timeLimit?_eq (h : params.InDomain) :
    params.timeLimit? = if params.IsSet (.real .timeLimit) then some params.timeLimit else none :=
  if_congr (h.isFinite_timeLimit.trans (isSet_real params .timeLimit).symm) rfl rfl

theorem threads?_eq (h : params.InDomain) :
    params.threads? = if params.IsSet (.int .threads) then some params.threads else none := by
  refine if_congr (Iff.trans ?_ (isSet_int params .threads).symm) rfl rfl
  exact ⟨fun more => more.ne', fun other => lt_of_le_of_ne h.threads (Ne.symm other)⟩

theorem method?_eq (params : Params) :
    params.method? = if params.IsSet (.int .method) then some params.method else none :=
  if_congr (isSet_int params .method).symm rfl rfl

theorem mipGap?_eq (params : Params) :
    params.mipGap? = if params.IsSet (.real .mipGap) then some params.mipGap else none :=
  if_congr ((Number.bne_iff_ne (by decide +kernel)).trans (isSet_real params .mipGap).symm) rfl rfl

theorem intFeasTol?_eq (params : Params) :
    params.intFeasTol? = if params.IsSet (.real .intFeasTol) then some params.intFeasTol else none :=
  if_congr ((Number.bne_iff_ne (by decide +kernel)).trans (isSet_real params .intFeasTol).symm) rfl rfl

end Params

/-! ### Layouts -/

namespace ParamValue

def text : ParamValue → String
  | int n => toString n
  | real x => Number.write x

def Reads : ParamValue → String → Prop
  | int n, text => text.toInt? = some n
  | real x, text => Number.read text.toList = .ok x

def Finite : ParamValue → Prop
  | int _ => True
  | real x => x.isFinite = true

theorem reads_text (v : ParamValue) (finite : v.Finite) : v.Reads v.text := by
  cases v with
  | int n => exact Int.toInt?_repr n
  | real x => exact Number.read_toList_write (Number.not_isNaN_of_isFinite finite)

end ParamValue

/-- How a program is told the value of a parameter: in the word after the name of an option, in one word
with it, or by a flag for each value. -/
inductive Spelling where
  | twoWords (option : String)
  | oneWord (before : String)
  | flag

/-- A piece of a command line: a fixed word, a path, perhaps within a word, or the option of a parameter,
if its value is not the usual one. -/
inductive Piece where
  | word (text : String)
  | problem (before after : String)
  | solution (before after : String)
  | option (q : Param)
deriving DecidableEq

namespace ProgramKind

/-- How a program is told the value of a parameter that it knows. -/
def spelling? : ProgramKind → Param → Option Spelling
  | cbc, .real .timeLimit => some (.twoWords "seconds")
  | cbc, .int .threads => some (.twoWords "threads")
  | cbc, .real .mipGap => some (.twoWords "ratioGap")
  | cbc, .real .intFeasTol => some (.twoWords "integerTolerance")
  | glpk, .real .timeLimit => some (.twoWords "--tmlim")
  | glpk, .real .mipGap => some (.twoWords "--mipgap")
  | glpk, .int .method => some .flag
  | gurobi, .real .timeLimit => some (.oneWord "TimeLimit=")
  | gurobi, .int .threads => some (.oneWord "Threads=")
  | gurobi, .int .method => some (.oneWord "Method=")
  | gurobi, .real .mipGap => some (.oneWord "MIPGap=")
  | gurobi, .real .intFeasTol => some (.oneWord "IntFeasTol=")
  | cplex, .real .timeLimit => some (.oneWord "set timelimit ")
  | cplex, .int .threads => some (.oneWord "set threads ")
  | _, _ => none

def layout : ProgramKind → List Piece
  | cbc => [.problem "" "", .option (.real .timeLimit), .option (.int .threads),
      .option (.real .mipGap), .option (.real .intFeasTol), .word "printingOptions", .word "all",
      .word "solve", .word "solution", .solution "" ""]
  | glpk => [.word "--lp", .problem "" "", .option (.real .timeLimit), .option (.real .mipGap),
      .option (.int .method), .word "-o", .solution "" ""]
  | gurobi => [.solution "ResultFile=" "", .option (.real .timeLimit), .option (.int .threads),
      .option (.int .method), .option (.real .mipGap), .option (.real .intFeasTol), .problem "" ""]
  | cplex => [.word "-c", .problem "READ \"" "\"", .option (.real .timeLimit),
      .option (.int .threads), .word "optimize", .solution "WRITE \"" "\""]

/-- The value that a program is told: glpsol takes whole seconds, of which there are `2 ^ 64 - 1` at
most. -/
def told (kind : ProgramKind) (params : Params) (q : Param) : ParamValue :=
  match kind, q with
  | glpk, .real .timeLimit => .int (min ⌈rational params.timeLimit⌉ (2 ^ 64 - 1))
  | _, q => params.value q

/-- The flag of a method that is not automatic. -/
def methodFlag (method : Int) : String :=
  if method = 0 then "--primal" else if method = 1 then "--dual" else "--interior"

def optionWords (kind : ProgramKind) (params : Params) (q : Param) : List String :=
  match kind.spelling? q with
  | some (.twoWords option) => [option, (kind.told params q).text]
  | some (.oneWord before) => [before ++ (kind.told params q).text]
  | some .flag => [methodFlag params.method]
  | none => []

end ProgramKind

namespace Piece

def words (kind : ProgramKind) (problemPath solutionPath : String) (params : Params) :
    Piece → List String
  | word text => [text]
  | problem before after => [before ++ problemPath ++ after]
  | solution before after => [before ++ solutionPath ++ after]
  | option q => if params.IsSet q then kind.optionWords params q else []

def isProblem : Piece → Bool
  | problem .. => true
  | _ => false

def isSolution : Piece → Bool
  | solution .. => true
  | _ => false

end Piece

namespace CommandLine

variable {params : Params} {problem solution : String}

theorem twoWords_eq {c : Prop} [Decidable c] {α : Type} (option : String) (x : α) (f : α → String) :
    twoWords option ((if c then some x else none).map f) = if c then [option, f x] else [] := by
  split <;> rfl

theorem oneWord_eq {c : Prop} [Decidable c] {α : Type} (before : String) (x : α) (f : α → String) :
    oneWord before ((if c then some x else none).map f) = if c then [before ++ f x] else [] := by
  split <;> rfl

theorem cbc_eq (h : params.InDomain) :
    cbc problem solution params =
      ProgramKind.cbc.layout.flatMap (Piece.words .cbc problem solution params) := by
  unfold cbc
  rw [params.timeLimit?_eq h, params.threads?_eq h, params.mipGap?_eq, params.intFeasTol?_eq]
  simp only [twoWords_eq]
  simp [ProgramKind.layout, Piece.words]
  rfl

theorem gurobi_eq (h : params.InDomain) :
    gurobi problem solution params =
      ProgramKind.gurobi.layout.flatMap (Piece.words .gurobi problem solution params) := by
  unfold gurobi
  rw [params.timeLimit?_eq h, params.threads?_eq h, params.method?_eq, params.mipGap?_eq,
    params.intFeasTol?_eq]
  simp only [oneWord_eq]
  simp [ProgramKind.layout, Piece.words]
  rfl

theorem cplex_eq (h : params.InDomain) :
    cplex problem solution params =
      ProgramKind.cplex.layout.flatMap (Piece.words .cplex problem solution params) := by
  unfold cplex
  rw [params.timeLimit?_eq h, params.threads?_eq h]
  simp only [oneWord_eq]
  simp [ProgramKind.layout, Piece.words]
  rfl

/-- A time limit is told in whole seconds, rounded up, as far as they fit into a machine word. -/
theorem wholeSeconds_eq (h : params.InDomain) (finite : params.timeLimit.isFinite = true) :
    (wholeSeconds params.timeLimit : Int) = min ⌈rational params.timeLimit⌉ (2 ^ 64 - 1) := by
  obtain ⟨q, found⟩ := Number.isFinite_iff.1 finite
  have nonneg : 0 ≤ q := (Number.le_iff_rational rational?_zero found).1 h.timeLimit
  unfold wholeSeconds
  rw [Nat.cast_min, Number.ceil_eq, Number.magnitude_eq found, abs_of_nonneg nonneg,
    Number.rational_of_rational? found]
  rfl

theorem glpkMethod_eq (h : params.InDomain) :
    glpkMethod params.method? =
      if params.IsSet (.int .method) then [ProgramKind.methodFlag params.method] else [] := by
  rw [params.method?_eq]
  split
  · rename_i other
    have different : params.method ≠ -1 := (params.isSet_int .method).1 other
    obtain ⟨low, high⟩ := h.method
    obtain automatic | primal | dual | interior : params.method = -1 ∨ params.method = 0 ∨
        params.method = 1 ∨ params.method = 2 := by omega
    · exact absurd automatic different
    · rw [primal]
      rfl
    · rw [dual]
      rfl
    · rw [interior]
      rfl
  · rfl

theorem glpkSeconds_eq (h : params.InDomain) :
    twoWords "--tmlim" (params.timeLimit?.map fun limit => toString (wholeSeconds limit)) =
      if params.IsSet (.real .timeLimit) then
        ProgramKind.glpk.optionWords params (.real .timeLimit) else [] := by
  rw [params.timeLimit?_eq h, twoWords_eq]
  split
  · rename_i other
    have finite := h.isFinite_timeLimit.2 ((params.isSet_real .timeLimit).1 other)
    show _ = ["--tmlim", toString (min ⌈rational params.timeLimit⌉ (2 ^ 64 - 1))]
    rw [← wholeSeconds_eq h finite]
    rfl
  · rfl

theorem glpk_eq (h : params.InDomain) :
    glpk problem solution params =
      ProgramKind.glpk.layout.flatMap (Piece.words .glpk problem solution params) := by
  unfold glpk
  rw [glpkSeconds_eq h, glpkMethod_eq h, params.mipGap?_eq]
  simp only [twoWords_eq]
  simp [ProgramKind.layout, Piece.words]
  rfl

end CommandLine

namespace ProgramKind

theorem count_layout (kind : ProgramKind) (q : Param) :
    kind.layout.count (.option q) = if (kind.spelling? q).isSome then 1 else 0 := by
  cases kind <;> rcases q with q | q <;> cases q <;> rfl

theorem countP_paths (kind : ProgramKind) :
    kind.layout.countP Piece.isProblem = 1 ∧ kind.layout.countP Piece.isSolution = 1 := by
  cases kind <;> exact ⟨rfl, rfl⟩

theorem told_finite {params : Params} (h : params.InDomain) (kind : ProgramKind) {q : Param}
    (set : params.IsSet q) : (kind.told params q).Finite := by
  have value : (params.value q).Finite := by
    rcases q with q | q
    · trivial
    · cases q with
      | timeLimit => exact h.isFinite_timeLimit.2 ((params.isSet_real .timeLimit).1 set)
      | intFeasTol => exact h.isFinite_intFeasTol
      | mipGap => exact h.mipGap.2
  unfold told
  split
  · trivial
  · exact value

end ProgramKind

namespace Program

theorem arguments_eq {params : Params} (h : params.InDomain) (program : Program)
    (problem solution : String) :
    program.arguments problem solution params =
      program.kind.layout.flatMap (Piece.words program.kind problem solution params) := by
  unfold arguments
  cases program.kind with
  | cbc => exact CommandLine.cbc_eq h
  | glpk => exact CommandLine.glpk_eq h
  | gurobi => exact CommandLine.gurobi_eq h
  | cplex => exact CommandLine.cplex_eq h

/-- Whatever calls were made on a fresh table, each parameter has the last value that was accepted for it,
which is in its domain.  The arguments of a program are those of its layout, which has each path once and
the option of each parameter once that the program knows; an option that is there tells a finite value,
which can be read from it. -/
theorem arguments_in_force (settings : List Setting) (program : Program) (problem solution : String) :
    let params := Params.default.after settings
    let layout := program.kind.layout
    (∀ s : Setting, (∃ set, s.run params = .ok set) ↔ s.param.Admits s.value) ∧
    (∀ q, params.value q =
      ((settings.filterMap (·.accepted? q)).getLast?).getD (Params.default.value q)) ∧
    params.InDomain ∧ (∀ q, (params.getReal q).isNaN = false) ∧
    program.arguments problem solution params =
      layout.flatMap (Piece.words program.kind problem solution params) ∧
    layout.countP Piece.isProblem = 1 ∧ layout.countP Piece.isSolution = 1 ∧
    (∀ q, layout.count (.option q) = if (program.kind.spelling? q).isSome then 1 else 0) ∧
    ∀ q, params.IsSet q → (program.kind.told params q).Finite ∧
      (program.kind.told params q).Reads (program.kind.told params q).text := by
  intro params layout
  have h : params.InDomain := Params.inDomain_after settings
  refine ⟨fun s => ?_, Params.value_after _ settings, h, h.isNaN_getReal,
    arguments_eq h program problem solution, ?_, ?_, program.kind.count_layout, fun q set => ?_⟩
  · obtain ⟨admitted, set, ran, -⟩ | ⟨refused, cause, ran⟩ := Params.run_cases params s
    · exact iff_of_true ⟨set, ran⟩ admitted
    · rw [ran]
      exact iff_of_false (fun ⟨_, h⟩ => nomatch h) refused
  · exact program.kind.countP_paths.1
  · exact program.kind.countP_paths.2
  · have finite := program.kind.told_finite h set
    exact ⟨finite, ParamValue.reads_text _ finite⟩

/-- Glpk is not told more seconds than fit into a machine word. -/
theorem seconds_saturate :
    let params := Params.default.after [.real .timeLimit 1e300]
    let arguments := (Program.ofKind .glpk).arguments "m.lp" "m.sol" params
    params.IsSet (.real .timeLimit) ∧
      arguments = ["--lp", "m.lp", "--tmlim", "18446744073709551615", "-o", "m.sol"] ∧
      toString ⌈rational params.timeLimit⌉ ∉ arguments := by
  decide +kernel

end Program

end LinProg
