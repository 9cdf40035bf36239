import Mathlib
import LinProg.Proofs.Expr
import LinProg.Proofs.Operation

/-!
# Formulas

A formula builds an expression by any operations from others.  The expression has just the variables that
the formula mentions, each with what the operations make of the coefficients that their operands have for
it, be that zero; the constant follows the same law (`eval_formula`).
-/

namespace LinProg
open Operation (reading_bind_ok_iff)

/-- The forms of an operation: for a new expression or as an assignment, with the operand by value or by
reference. -/
inductive Form where
  | value
  | reference
  | assignValue
  | assignReference

/-- The result of an operation.  An assignment changes the place of its first operand, and its result is what
stands there then. -/
def Form.result (form : Form) (operation : Expr → Expr) (e : Expr) : Expr :=
  match form with
  | value | reference => operation e
  | assignValue | assignReference =>
    let assignment : StateM Expr Unit := modify operation
    (assignment.run e).2

/-- Expressions built by operations.  A scalar product stands in a formula once it has been made. -/
inductive Formula where
  | given (e : Expr)
  | ofNumber (c : Float)
  | ofVariable (v : Variable)
  | product (c : Float) (v : Variable)
  | sumVariables (vs : List Variable)
  | scalarProduct {coefficients : List Float} {vs : List Variable} {e : Expr}
      (made : Expr.scalarProduct coefficients vs = .ok e)
  | addTerm (t : Formula) (v : Variable) (c : Float)
  | setCoefficient (t : Formula) (v : Variable) (c : Float)
  | addVariable (form : Form) (t : Formula) (v : Variable)
  | subVariable (form : Form) (t : Formula) (v : Variable)
  | addConstant (form : Form) (t : Formula) (c : Float)
  | subConstant (form : Form) (t : Formula) (c : Float)
  | add (form : Form) (t u : Formula)
  | sub (form : Form) (t u : Formula)
  | scale (form : Form) (t : Formula) (factor : Float)
  | neg (t : Formula)
  | withoutConstant (t : Formula)
  | difference (c : Float) (t : Formula)
  | sum {n : Nat} (parts : Fin n → Formula)

/-- Coefficients of one variable in two operands: their sum, or the one that there is. -/
def plus : Option Float → Option Float → Option Float := Option.merge (· + ·)

/-- The coefficient that a multiple of a variable has for another one. -/
def Variable.times? (v : Variable) (c : Float) (r : Ref) : Option Float :=
  if v.ref = r then some c else none

namespace Formula

def eval : Formula → Expr
  | given e => e
  | ofNumber c => .ofConstant c
  | ofVariable v => .ofVariable v
  | product c v => .term v c
  | sumVariables vs => .sumVariables vs
  | @scalarProduct _ _ e _ => e
  | addTerm t v c => t.eval.addTerm v c
  | setCoefficient t v c => t.eval.setCoefficient v c
  | addVariable form t v => form.result (·.addVariable v) t.eval
  | subVariable form t v => form.result (·.subVariable v) t.eval
  | addConstant form t c => form.result (·.addConstant c) t.eval
  | subConstant form t c => form.result (·.subConstant c) t.eval
  | add form t u => form.result (·.add u.eval) t.eval
  | sub form t u => form.result (·.sub u.eval) t.eval
  | scale form t factor => form.result (·.scale factor) t.eval
  | neg t => t.eval.neg
  | withoutConstant t => t.eval.withoutConstant
  | difference c t => .difference c t.eval
  | sum parts => .sum (List.ofFn fun i => (parts i).eval)

def Mentions (r : Ref) : Formula → Prop
  | given e => r ∈ e.coefficients.map (·.1)
  | ofNumber _ => False
  | ofVariable v | product _ v => v.ref = r
  | sumVariables vs | @scalarProduct _ vs _ _ => ∃ v ∈ vs, v.ref = r
  | addTerm t v _ | setCoefficient t v _ | addVariable _ t v | subVariable _ t v =>
    t.Mentions r ∨ v.ref = r
  | add _ t u | sub _ t u => t.Mentions r ∨ u.Mentions r
  | addConstant _ t _ | subConstant _ t _ | scale _ t _ | neg t | withoutConstant t
  | difference _ t => t.Mentions r
  | sum parts => ∃ i, (parts i).Mentions r

/-- What the operations make of the coefficients of a variable. -/
def coefficient? (r : Ref) : Formula → Option Float
  | given e => e.terms.get? r
  | ofNumber _ => none
  | ofVariable v => v.times? 1 r
  | product c v => v.times? c r
  | sumVariables vs => vs.foldl (fun x v => plus x (v.times? 1 r)) none
  | @scalarProduct coefficients vs _ _ =>
    (vs.zip coefficients).foldl (fun x (v, c) => plus x (v.times? c r)) none
  | addTerm t v c => plus (t.coefficient? r) (v.times? c r)
  | setCoefficient t v c => (v.times? c r).or (t.coefficient? r)
  | addVariable _ t v => plus (t.coefficient? r) (v.times? 1 r)
  | subVariable _ t v => plus (t.coefficient? r) (v.times? (-1) r)
  | add _ t u => plus (t.coefficient? r) (u.coefficient? r)
  | sub _ t u => plus (t.coefficient? r) ((u.coefficient? r).map (· * -1))
  | scale _ t factor => (t.coefficient? r).map (· * factor)
  | neg t | difference _ t => (t.coefficient? r).map (· * -1)
  | addConstant _ t _ | subConstant _ t _ | withoutConstant t => t.coefficient? r
  | sum parts => (List.ofFn fun i => (parts i).coefficient? r).foldl plus none

def constant : Formula → Float
  | given e => e.constant
  | ofNumber c => c
  | ofVariable _ | product .. | sumVariables _ | scalarProduct _ | withoutConstant _ => 0
  | addTerm t .. | setCoefficient t .. | addVariable _ t _ | subVariable _ t _ => t.constant
  | addConstant _ t c => t.constant + c
  | subConstant _ t c => t.constant + c * -1
  | add _ t u => t.constant + u.constant
  | sub _ t u => t.constant + u.constant * -1
  | scale _ t factor => t.constant * factor
  | neg t => t.constant * -1
  | difference c t => c + t.constant * -1
  | sum parts => (List.ofFn fun i => (parts i).constant).foldl (· + ·) 0

/-- The formula with all operations in one form. -/
def plain : Formula → Formula
  | addTerm t v c => addTerm t.plain v c
  | setCoefficient t v c => setCoefficient t.plain v c
  | addVariable _ t v => addVariable .value t.plain v
  | subVariable _ t v => subVariable .value t.plain v
  | addConstant _ t c => addConstant .value t.plain c
  | subConstant _ t c => subConstant .value t.plain c
  | add _ t u => add .value t.plain u.plain
  | sub _ t u => sub .value t.plain u.plain
  | scale _ t factor => scale .value t.plain factor
  | neg t => neg t.plain
  | withoutConstant t => withoutConstant t.plain
  | difference c t => difference c t.plain
  | sum parts => sum fun i => (parts i).plain
  | t => t

end Formula

@[simp] theorem Form.result_eq (form : Form) (operation : Expr → Expr) (e : Expr) :
    form.result operation e = operation e := by
  cases form <;> rfl

/-! ### Coefficients of operands -/

section Plus

variable {x y : Option Float} {v : Variable} {c : Float} {r : Ref}

@[simp] theorem plus_none (x : Option Float) : plus x none = x := by
  cases x <;> rfl

@[simp] theorem none_plus (x : Option Float) : plus none x = x := by
  cases x <;> rfl

theorem isSome_plus : (plus x y).isSome ↔ x.isSome ∨ y.isSome := by
  cases x <;> cases y <;> simp [plus]

theorem isSome_foldl_plus {α : Type} (xs : List α) (f : α → Option Float) (x : Option Float) :
    (xs.foldl (fun x a => plus x (f a)) x).isSome ↔ x.isSome ∨ ∃ a ∈ xs, (f a).isSome := by
  induction xs generalizing x with
  | nil => simp
  | cons a xs ih => rw [List.foldl_cons, ih, isSome_plus, List.exists_mem_cons_iff, or_assoc]

theorem Variable.isSome_times? : (v.times? c r).isSome ↔ v.ref = r := by
  unfold times?
  split <;> simp_all

end Plus

namespace Expr

variable {e f : Expr} {v : Variable} {c : Float} {r : Ref} {vs : List Variable}

theorem get?_addTerm (e : Expr) (v : Variable) (c : Float) (r : Ref) :
    (e.addTerm v c).terms.get? r = plus (e.terms.get? r) (v.times? c r) := by
  refine (Sparse.get?_add ..).trans ?_
  unfold Variable.times?
  by_cases same : v.ref = r
  · rw [if_pos same.symm, if_pos same, same]
    cases e.terms.get? r <;> rfl
  · rw [if_neg (Ne.symm same), if_neg same, plus_none]

theorem get?_add (e f : Expr) (r : Ref) :
    (e.add f).terms.get? r = plus (e.terms.get? r) (f.terms.get? r) := by
  refine (Sparse.get?_foldl_add ..).trans ?_
  rw [Sparse.valuesAt_toList]
  cases f.terms.get? r with
  | none => exact (plus_none _).symm
  | some x => rfl

theorem get?_foldl_addTerm (terms : List (Variable × Float)) (e : Expr) (r : Ref) :
    (terms.foldl (fun e (v, c) => e.addTerm v c) e).terms.get? r =
      terms.foldl (fun x (v, c) => plus x (v.times? c r)) (e.terms.get? r) := by
  induction terms generalizing e with
  | nil => rfl
  | cons term terms ih => rw [List.foldl_cons, ih, get?_addTerm, List.foldl_cons]

theorem get?_sumVariables (vs : List Variable) (r : Ref) :
    (sumVariables vs).terms.get? r = vs.foldl (fun x v => plus x (v.times? 1 r)) none := by
  have pairs := get?_foldl_addTerm (vs.map (·, 1)) zero r
  rw [List.foldl_map, List.foldl_map] at pairs
  exact pairs

theorem constant_foldl_addTerm (terms : List (Variable × Float)) (e : Expr) :
    (terms.foldl (fun e (v, c) => e.addTerm v c) e).constant = e.constant := by
  induction terms generalizing e with
  | nil => rfl
  | cons term terms ih => exact ih _

theorem get?_foldl_add (es : List Expr) (e : Expr) (r : Ref) :
    (es.foldl add e).terms.get? r = (es.map (·.terms.get? r)).foldl plus (e.terms.get? r) := by
  induction es generalizing e with
  | nil => rfl
  | cons f es ih => rw [List.foldl_cons, ih, get?_add, List.map_cons, List.foldl_cons]

theorem constant_foldl_add (es : List Expr) (e : Expr) :
    (es.foldl add e).constant = (es.map (·.constant)).foldl (· + ·) e.constant := by
  induction es generalizing e with
  | nil => rfl
  | cons f es ih => exact ih _

theorem scalarProduct_ok_iff {coefficients : List Float} :
    scalarProduct coefficients vs = .ok e ↔ vs.length = coefficients.length ∧
      (vs.zip coefficients).foldl (fun e (v, c) => e.addTerm v c) zero = e := by
  unfold scalarProduct LengthMismatch.check
  rw [reading_bind_ok_iff]
  by_cases fit : vs.length = coefficients.length
  · simp [fit, pure, Except.pure]
  · simp [fit]

end Expr

/-! ### Coefficients of formulas -/

namespace Formula

variable {r : Ref}

theorem get?_eval (r : Ref) (t : Formula) : t.eval.terms.get? r = t.coefficient? r := by
  induction t with
  | given e => rfl
  | ofNumber c => rfl
  | ofVariable v => exact (Expr.get?_addTerm .zero v 1 r).trans (none_plus _)
  | product c v => exact (Expr.get?_addTerm .zero v c r).trans (none_plus _)
  | sumVariables vs => exact Expr.get?_sumVariables vs r
  | scalarProduct made =>
    obtain ⟨-, rfl⟩ := Expr.scalarProduct_ok_iff.1 made
    exact Expr.get?_foldl_addTerm _ _ r
  | addTerm t v c ih => exact (Expr.get?_addTerm t.eval v c r).trans (congrArg (plus · _) ih)
  | setCoefficient t v c ih =>
    refine (Sparse.get?_set ..).trans ?_
    show _ = (v.times? c r).or (t.coefficient? r)
    unfold Variable.times?
    by_cases same : v.ref = r
    · rw [if_pos same.symm, if_pos same, Option.some_or]
    · rw [if_neg (Ne.symm same), if_neg same, Option.none_or, ih]
  | addVariable form t v ih =>
    rw [eval, form.result_eq]
    exact (Expr.get?_addTerm t.eval v 1 r).trans (congrArg (plus · _) ih)
  | subVariable form t v ih =>
    rw [eval, form.result_eq]
    exact (Expr.get?_addTerm t.eval v (-1) r).trans (congrArg (plus · _) ih)
  | addConstant form t c ih =>
    rw [eval, form.result_eq]
    exact ih
  | subConstant form t c ih =>
    rw [eval, form.result_eq]
    exact ih
  | add form t u ih ih' =>
    rw [eval, form.result_eq]
    exact (Expr.get?_add ..).trans (congrArg₂ plus ih ih')
  | sub form t u ih ih' =>
    rw [eval, form.result_eq]
    refine (Expr.get?_add ..).trans (congrArg₂ plus ih ?_)
    exact (Sparse.get?_map ..).trans (congrArg (Option.map (· * -1)) ih')
  | scale form t factor ih =>
    rw [eval, form.result_eq]
    exact (Sparse.get?_map ..).trans (congrArg (Option.map (· * factor)) ih)
  | neg t ih => exact (Sparse.get?_map ..).trans (congrArg (Option.map (· * -1)) ih)
  | withoutConstant t ih => exact ih
  | difference c t ih => exact (Sparse.get?_map ..).trans (congrArg (Option.map (· * -1)) ih)
  | sum parts ih =>
    refine (Expr.get?_foldl_add _ _ r).trans ?_
    rw [List.map_ofFn]
    exact congrArg (fun xs => (List.ofFn xs).foldl plus none) (funext ih)

theorem constant_eval (t : Formula) : t.eval.constant = t.constant := by
  induction t with
  | given | ofNumber | ofVariable | product | withoutConstant => rfl
  | sumVariables vs =>
    have pairs := Expr.constant_foldl_addTerm (vs.map (·, 1)) .zero
    rw [List.foldl_map] at pairs
    exact pairs
  | scalarProduct made =>
    obtain ⟨-, rfl⟩ := Expr.scalarProduct_ok_iff.1 made
    exact Expr.constant_foldl_addTerm _ _
  | addTerm t v c ih => exact ih
  | setCoefficient t v c ih => exact ih
  | addVariable form t v ih =>
    rw [eval, form.result_eq]
    exact ih
  | subVariable form t v ih =>
    rw [eval, form.result_eq]
    exact ih
  | addConstant form t c ih =>
    rw [eval, form.result_eq]
    exact congrArg (· + c) ih
  | subConstant form t c ih =>
    rw [eval, form.result_eq]
    show t.eval.constant - c = t.constant + c * -1
    rw [ih, Number.mul_neg_one, Number.add_neg]
  | add form t u ih ih' =>
    rw [eval, form.result_eq]
    exact congrArg₂ (· + ·) ih ih'
  | sub form t u ih ih' =>
    rw [eval, form.result_eq]
    exact congrArg₂ (· + · * -1) ih ih'
  | scale form t factor ih =>
    rw [eval, form.result_eq]
    exact congrArg (· * factor) ih
  | neg t ih => exact congrArg (· * -1) ih
  | difference c t ih =>
    show t.eval.constant * -1 + c = c + t.constant * -1
    rw [ih, Number.add_comm]
  | sum parts ih =>
    refine (Expr.constant_foldl_add _ _).trans ?_
    rw [List.map_ofFn]
    exact congrArg (fun xs => (List.ofFn xs).foldl (· + ·) 0) (funext ih)

/-- A formula has a coefficient for just the variables that it mentions. -/
theorem isSome_coefficient? (t : Formula) : (t.coefficient? r).isSome ↔ t.Mentions r := by
  have term {x : Option Float} {p : Prop} {v : Variable} {c : Float} (ih : x.isSome ↔ p) :
      (plus x (v.times? c r)).isSome ↔ p ∨ v.ref = r :=
    isSome_plus.trans (or_congr ih Variable.isSome_times?)
  have scaled {x : Option Float} {p : Prop} {factor : Float} (ih : x.isSome ↔ p) :
      (x.map (· * factor)).isSome ↔ p := by rwa [Option.isSome_map]
  induction t with
  | given e => exact Sparse.isSome_get?_iff
  | ofNumber c => simp [coefficient?, Mentions]
  | ofVariable v | product c v => exact Variable.isSome_times?
  | sumVariables vs =>
    refine (isSome_foldl_plus vs (·.times? 1 r) none).trans ?_
    simp [Variable.isSome_times?, Mentions]
  | @scalarProduct coefficients vs e made =>
    obtain ⟨fit, -⟩ := Expr.scalarProduct_ok_iff.1 made
    have first : (vs.zip coefficients).map Prod.fst = vs := List.map_fst_zip (Nat.le_of_eq fit)
    -- the zip drops no variable, as the lists have one length
    have listed (v : Variable) : v ∈ vs ↔ ∃ c, (v, c) ∈ vs.zip coefficients := by
      conv_lhs => rw [← first]
      simp
    refine (isSome_foldl_plus _ (fun p : Variable × Float => p.1.times? p.2 r) none).trans ?_
    simp [Mentions, listed, Variable.isSome_times?]
  | addTerm t v c ih => exact term ih
  | setCoefficient t v c ih =>
    show ((v.times? c r).or (t.coefficient? r)).isSome ↔ t.Mentions r ∨ v.ref = r
    rw [Option.isSome_or, Bool.or_eq_true]
    exact (or_congr Variable.isSome_times? ih).trans or_comm
  | addVariable _ t v ih => exact term ih
  | subVariable _ t v ih => exact term ih
  | addConstant _ t c ih => exact ih
  | subConstant _ t c ih => exact ih
  | add _ t u ih ih' => exact isSome_plus.trans (or_congr ih ih')
  | sub _ t u ih ih' => exact isSome_plus.trans (or_congr ih (scaled ih'))
  | scale _ t factor ih => exact scaled ih
  | neg t ih => exact scaled ih
  | withoutConstant t ih => exact ih
  | difference c t ih => exact scaled ih
  | sum parts ih =>
    refine (isSome_foldl_plus _ id none).trans ?_
    simp [List.mem_ofFn, ih, Mentions]

theorem eval_plain (t : Formula) : t.plain.eval = t.eval := by
  induction t with
  | given | ofNumber | ofVariable | product | sumVariables | scalarProduct => rfl
  | addTerm t v c ih => exact congrArg (Expr.addTerm · v c) ih
  | setCoefficient t v c ih => exact congrArg (Expr.setCoefficient · v c) ih
  | addVariable form t v ih =>
    rw [eval, form.result_eq]
    exact congrArg (Expr.addVariable · v) ih
  | subVariable form t v ih =>
    rw [eval, form.result_eq]
    exact congrArg (Expr.subVariable · v) ih
  | addConstant form t c ih =>
    rw [eval, form.result_eq]
    exact congrArg (Expr.addConstant · c) ih
  | subConstant form t c ih =>
    rw [eval, form.result_eq]
    exact congrArg (Expr.subConstant · c) ih
  | add form t u ih ih' =>
    rw [eval, form.result_eq]
    exact congrArg₂ Expr.add ih ih'
  | sub form t u ih ih' =>
    rw [eval, form.result_eq]
    exact congrArg₂ Expr.sub ih ih'
  | scale form t factor ih =>
    rw [eval, form.result_eq]
    exact congrArg (Expr.scale · factor) ih
  | neg t ih => exact congrArg Expr.neg ih
  | withoutConstant t ih => exact congrArg Expr.withoutConstant ih
  | difference c t ih => exact congrArg (Expr.difference c) ih
  | sum parts ih => exact congrArg (fun es => Expr.sum (List.ofFn es)) (funext ih)

end Formula

end LinProg
