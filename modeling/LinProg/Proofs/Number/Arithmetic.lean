import Mathlib
import LinProg.Proofs.Number.Sign

/-!
# Arithmetic with neutral elements

Multiplying by one and subtracting zero change nothing, and a comparison of two doubles is decided
by one order.  `Agrees` is equality up to the sign of zero, which sums respect.
-/

namespace LinProg.Number
open Float.Model (Format UnpackedFloat)
open Float.Model.UnpackedFloat

/-! ### Units -/

theorem mul_of_unit {s : Sign} {m : Nat} {e : Int} {h : 0 < m} (x : Float) :
    x.toModel.unpack = .finite s m e h →
      UnpackedFloat.mul Format.binary64 (.finite .positive (2 ^ 52) (-52) (by decide))
        (.finite s m e h) = .finite s m e h ∧
      UnpackedFloat.mul Format.binary64 (.finite .negative (2 ^ 52) (-52) (by decide))
        (.finite s m e h) = .finite (-s) m e h := by
  intro shape
  have canonical := (canonical_of_unpack shape).1
  have value : ((2 ^ 52 : Nat) : ℚ) * 2 ^ (-52 : Int) * (m * 2 ^ e) = m * 2 ^ e := by
    rw [show ((2 ^ 52 : Nat) : ℚ) * 2 ^ (-52 : Int) = 1 by norm_num, Rat.one_mul]
  have long : 52 ≤ (2 ^ 52).log2 := by decide +kernel
  constructor
  · rw [mul_of_value_eq canonical value long]
    cases s <;> rfl
  · rw [mul_of_value_eq canonical value long]
    cases s <;> rfl

theorem one_mul (x : Float) : 1 * x = x := by
  refine ofModel_pack_of_unpack ?_
  show _ = UnpackedFloat.mul Format.binary64 (.finite .positive (2 ^ 52) (-52) (by decide)) _
  cases shape : x.toModel.unpack with
  | notANumber => rfl
  | infinity s => cases s <;> rfl
  | zero s => cases s <;> rfl
  | finite s m e positive => exact (mul_of_unit x shape).1.symm

theorem neg_one_mul (x : Float) : -1 * x = -x := by
  apply congrArg (fun u => Float.ofModel (Float.Model.pack u))
  show UnpackedFloat.mul Format.binary64 (.finite .negative (2 ^ 52) (-52) (by decide))
    x.toModel.unpack = x.toModel.unpack.neg
  cases shape : x.toModel.unpack with
  | notANumber => rfl
  | infinity s => cases s <;> rfl
  | zero s => cases s <;> rfl
  | finite s m e positive => exact (mul_of_unit x shape).2

theorem mul_neg (x y : Float) : x * -y = -x * y := by
  have signs (s t : Sign) : s * -t = -s * t := by
    cases s <;> cases t <;> rfl
  apply congrArg (fun u => Float.ofModel (Float.Model.pack u))
  show UnpackedFloat.mul Format.binary64 x.toModel.unpack (-y).toModel.unpack =
    UnpackedFloat.mul Format.binary64 (-x).toModel.unpack y.toModel.unpack
  rw [unpack_neg, unpack_neg]
  cases x.toModel.unpack <;> cases y.toModel.unpack <;>
    simp only [UnpackedFloat.mul, UnpackedFloat.neg, signs]

theorem sub_zero (x : Float) : x - 0 = x := by
  refine ofModel_pack_of_unpack ?_
  show _ = UnpackedFloat.sub Format.binary64 x.toModel.unpack (.zero .positive)
  cases x.toModel.unpack with
  | zero s => cases s <;> rfl
  | _ => rfl

/-! ### Comparison -/

theorem lt_iff {x y : Float} :
    x < y ↔ x.toModel.unpack.compare y.toModel.unpack = some .lt := by
  refine (decide_eq_true_iff (p := x.toModel < y.toModel)).trans ?_
  show (x.toModel.unpack.compare y.toModel.unpack == some .lt) = true ↔ _
  exact beq_iff_eq

theorem beq_iff {x y : Float} :
    (x == y) = true ↔ x.toModel.unpack.compare y.toModel.unpack = some .eq := by
  show (x.toModel.unpack.compare y.toModel.unpack == some .eq) = true ↔ _
  exact beq_iff_eq

theorem le_iff {x y : Float} : x ≤ y ↔ x < y ∨ (x == y) = true := by
  rw [lt_iff, beq_iff]
  refine (decide_eq_true_iff (p := x.toModel ≤ y.toModel)).trans ?_
  show (x.toModel.unpack.compare y.toModel.unpack).any (·.isLE) = true ↔ _
  generalize x.toModel.unpack.compare y.toModel.unpack = order
  cases order with
  | none => decide
  | some order => cases order <;> decide

theorem compare_swap (u v : UnpackedFloat) :
    v.compare u = (u.compare v).map Ordering.swap := by
  cases u with
  | notANumber => cases v <;> rfl
  | infinity s => cases v with
    | infinity t => cases s <;> cases t <;> rfl
    | finite t _ _ _ => cases s <;> cases t <;> rfl
    | _ => cases s <;> rfl
  | zero s => cases v with
    | infinity t => cases t <;> rfl
    | finite t _ _ _ => cases t <;> rfl
    | _ => rfl
  | finite s m e _ => cases v with
    | infinity t => cases s <;> cases t <;> rfl
    | finite t n f _ =>
      have order : (compare f e).then (compare n m) =
          ((compare e f).then (compare m n)).swap := by
        rw [Ordering.swap_then, ← Std.OrientedCmp.eq_swap, ← Std.OrientedCmp.eq_swap]
      cases s <;> cases t
      · exact congrArg (fun o => some (Ordering.swap o)) order
      · rfl
      · rfl
      · exact congrArg some order
    | _ => cases s <;> rfl

theorem not_le_of_lt {x y : Float} (less : x < y) : ¬y ≤ x := by
  rw [le_iff, lt_iff, beq_iff, compare_swap, lt_iff.1 less]
  decide

theorem not_isNaN_of_lt {x y : Float} (less : x < y) : x.isNaN = false ∧ y.isNaN = false := by
  have order := lt_iff.1 less
  constructor
  · show x.toModel.unpack.isNaN = false
    generalize x.toModel.unpack = u at order
    cases u with
    | notANumber => cases order
    | _ => rfl
  · show y.toModel.unpack.isNaN = false
    generalize y.toModel.unpack = v at order
    generalize x.toModel.unpack = u at order
    cases v with
    | notANumber => cases u <;> cases order
    | _ => rfl

theorem eq_or_zero_of_beq {x y : Float} (same : (x == y) = true) :
    x = y ∨ (x == 0) = true ∧ (y == 0) = true := by
  obtain ⟨-, -, h⟩ := Float.beq_iff_ne_nan_and_eq.1 same
  rcases h with h | ⟨hx, hy⟩ | ⟨hx, hy⟩
  · exact .inl h
  · subst hx hy
    exact .inr ⟨rfl, rfl⟩
  · subst hx hy
    exact .inr ⟨rfl, rfl⟩

theorem eq_one_of_beq {x : Float} (same : (x == 1) = true) : x = 1 := by
  rcases eq_or_zero_of_beq same with h | ⟨-, h⟩
  · exact h
  · exact absurd h (by decide)

theorem bne_iff_ne {x y : Float} (nonzero : (y == y) = true ∧ (y == 0) = false) : (x != y) = true ↔ x ≠ y := by
  rw [bne, Bool.not_eq_true', Bool.eq_false_iff]
  refine not_congr ⟨fun same => ?_, fun same => same ▸ nonzero.1⟩
  rcases eq_or_zero_of_beq same with h | ⟨-, zero⟩
  · exact h
  · exact absurd zero (ne_true_of_eq_false nonzero.2)

/-! ### Signs and magnitudes -/

theorem lt_zero_iff_isNegative {x : Float} (number : x.isNaN = false)
    (nonzero : (x == 0) = false) : x < 0 ↔ isNegative x = true := by
  obtain ⟨s, sign⟩ := sign?_of_not_isNaN number
  rw [isNegative_of_sign sign, lt_iff]
  show x.toModel.unpack.compare (.zero .positive) = some .lt ↔ _
  have other : x.toModel.unpack.compare (.zero .positive) ≠ some .eq :=
    fun h => ne_true_of_eq_false nonzero (beq_iff.2 h)
  generalize x.toModel.unpack = u at sign other
  cases u with
  | notANumber => cases sign
  | zero t => exact absurd rfl other
  | infinity t =>
    cases sign
    cases s <;> decide
  | finite t m e _ =>
    cases sign
    cases s
    · exact iff_of_true rfl rfl
    · exact iff_of_false (by simp [UnpackedFloat.compare]) (by decide)

/-- The sign and the magnitude of a double make up the double. -/
theorem sign_mul_abs {x : Float} (number : x.isNaN = false) (nonzero : (x == 0) = false) :
    (if x < 0 then -1 else 1) * x.abs = x := by
  split
  · rename_i negative
    rw [neg_one_mul]
    exact neg_abs_of_isNegative number ((lt_zero_iff_isNegative number nonzero).1 negative)
  · rename_i positive
    rw [one_mul]
    refine abs_of_not_isNegative number (Bool.eq_false_iff.2 fun negative => positive ?_)
    exact (lt_zero_iff_isNegative number nonzero).2 negative

theorem isNaN_abs (x : Float) : x.abs.isNaN = x.isNaN := by
  show x.abs.toModel.unpack.isNaN = x.toModel.unpack.isNaN
  rw [unpack_abs]
  cases x.toModel.unpack <;> rfl

theorem compare_neg (u v : UnpackedFloat) : u.neg.compare v.neg = v.compare u := by
  rw [compare_swap u v]
  cases u with
  | finite s m e _ => cases v with
    | finite t n f _ => cases s <;> cases t <;> simp [UnpackedFloat.neg, UnpackedFloat.compare]
    | notANumber => cases s <;> rfl
    | _ t => cases s <;> cases t <;> rfl
  | notANumber => cases v <;> rfl
  | _ s => cases v with
    | notANumber => cases s <;> rfl
    | _ t => cases s <;> cases t <;> rfl

theorem le_neg_iff {x y : Float} : x ≤ -y ↔ y ≤ -x := by
  have order : x.toModel.unpack.compare (-y).toModel.unpack =
      y.toModel.unpack.compare (-x).toModel.unpack := by
    rw [← neg_neg x, unpack_neg (-x), unpack_neg y, compare_neg, neg_neg]
  rw [le_iff, le_iff, lt_iff, lt_iff, beq_iff, beq_iff, order]

theorem sign?_of_le {x y : Float} (positive : 0 < x) (above : x ≤ y) :
    sign? y.toModel.unpack = some .positive := by
  rw [lt_iff] at positive
  rw [le_iff, lt_iff, beq_iff] at above
  change (UnpackedFloat.zero .positive).compare _ = some .lt at positive
  generalize x.toModel.unpack = u at positive above
  generalize y.toModel.unpack = v at above
  cases u with
  | notANumber | zero s => cases positive
  | infinity s | finite s m e _ =>
    cases s with
    | negative => cases positive
    | positive =>
      cases v with
      | notANumber => rcases above with h | h <;> cases h
      | _ t => cases t with
        | positive => rfl
        | negative => rcases above with h | h <;> cases h

theorem sign?_neg {x : Float} {s : Sign} (sign : sign? x.toModel.unpack = some s) :
    sign? (-x).toModel.unpack = some (-s) := by
  rw [unpack_neg]
  generalize x.toModel.unpack = u at sign
  cases u <;> cases sign <;> rfl

theorem sign?_of_le_neg {x y : Float} (positive : 0 < x) (below : y ≤ -x) :
    sign? y.toModel.unpack = some .negative := by
  have opposite := sign?_neg (sign?_of_le positive (le_neg_iff.1 below))
  rwa [neg_neg] at opposite

/-- A positive limit is reached in magnitude just if it is reached on one of the sides. -/
theorem le_abs_iff {limit x : Float} (positive : 0 < limit) :
    limit ≤ x.abs ↔ limit ≤ x ∨ x ≤ -limit := by
  have reached {y : Float} := @sign?_of_le limit y positive
  have reached' {y : Float} := @sign?_of_le_neg limit y positive
  cases number : x.isNaN with
  | false =>
    obtain ⟨s, sign⟩ := sign?_of_not_isNaN number
    cases s with
    | positive =>
      rw [abs_of_not_isNegative number (isNegative_of_sign sign)]
      refine ⟨.inl, fun either => either.resolve_right fun below => ?_⟩
      rw [reached' below] at sign
      cases sign
    | negative =>
      have magnitude : x.abs = -x := by
        rw [← neg_neg x.abs, neg_abs_of_isNegative number (isNegative_of_sign sign)]
      rw [magnitude, le_neg_iff]
      refine ⟨.inr, fun either => either.resolve_left fun above => ?_⟩
      rw [reached above] at sign
      cases sign
  | true =>
    have shape : x.toModel.unpack = .notANumber := by
      change x.toModel.unpack.isNaN = true at number
      generalize x.toModel.unpack = u at number
      cases u <;> first | rfl | cases number
    have unsigned {s : Sign} (sign : sign? x.toModel.unpack = some s) : False := by
      rw [shape] at sign
      cases sign
    refine iff_of_false (fun above => ?_)
      (not_or.2 ⟨fun above => unsigned (reached above), fun below => unsigned (reached' below)⟩)
    have sign := reached above
    rw [unpack_abs, shape] at sign
    cases sign

/-! ### Equality up to the sign of zero -/

theorem beq_zero_iff {x : Float} :
    (x == 0) = true ↔ ∃ s, x.toModel.unpack = .zero s := by
  rw [beq_iff]
  show x.toModel.unpack.compare (.zero .positive) = some .eq ↔ _
  cases x.toModel.unpack with
  | notANumber => exact iff_of_false (fun h => nomatch h) fun ⟨_, h⟩ => nomatch h
  | infinity s => cases s <;> exact iff_of_false (fun h => nomatch h) fun ⟨_, h⟩ => nomatch h
  | zero s => exact iff_of_true rfl ⟨s, rfl⟩
  | finite s m e _ => cases s <;> exact iff_of_false (fun h => nomatch h) fun ⟨_, h⟩ => nomatch h

/-- The same double, or both zero. -/
def Agrees (x y : Float) : Prop := x = y ∨ (x == 0) = true ∧ (y == 0) = true

variable {x y z x' y' : Float}

theorem Agrees.refl (x : Float) : Agrees x x := .inl rfl

theorem Agrees.symm (h : Agrees x y) : Agrees y x := h.imp Eq.symm And.symm

theorem Agrees.trans (h : Agrees x y) (h' : Agrees y z) : Agrees x z := by
  rcases h with rfl | ⟨hx, hy⟩
  · exact h'
  · rcases h' with rfl | ⟨-, hz⟩
    · exact .inr ⟨hx, hy⟩
    · exact .inr ⟨hx, hz⟩

theorem Agrees.of_beq (h : (x == y) = true) : Agrees x y := eq_or_zero_of_beq h

theorem zero_add_of_ne_zero (zero : (x == 0) = true) (nonzero : (y == 0) = false) : x + y = y := by
  obtain ⟨s, shape⟩ := beq_zero_iff.1 zero
  refine ofModel_pack_of_unpack ?_
  rw [shape]
  have other : ∀ t, y.toModel.unpack ≠ .zero t := fun t h =>
    ne_true_of_eq_false nonzero (beq_zero_iff.2 ⟨t, h⟩)
  cases h : y.toModel.unpack with
  | zero t => exact absurd h (other t)
  | _ => rfl

theorem add_zero_of_ne_zero (zero : (x == 0) = true) (nonzero : (y == 0) = false) : y + x = y := by
  obtain ⟨s, shape⟩ := beq_zero_iff.1 zero
  refine ofModel_pack_of_unpack ?_
  rw [shape]
  have other : ∀ t, y.toModel.unpack ≠ .zero t := fun t h =>
    ne_true_of_eq_false nonzero (beq_zero_iff.2 ⟨t, h⟩)
  cases h : y.toModel.unpack with
  | zero t => exact absurd h (other t)
  | _ => rfl

theorem eq_of_beq_zero (zero : (x == 0) = true) : x = 0 ∨ x = -0 := by
  obtain ⟨-, -, same | ⟨same, -⟩ | ⟨same, -⟩⟩ := Float.beq_iff_ne_nan_and_eq.1 zero
  · exact .inl same
  · exact .inl same
  · exact .inr same

theorem add_zeros (hx : (x == 0) = true) (hy : (y == 0) = true) : (x + y == 0) = true := by
  rcases eq_of_beq_zero hx with rfl | rfl
  · rcases eq_of_beq_zero hy with rfl | rfl <;> rfl
  · rcases eq_of_beq_zero hy with rfl | rfl <;> rfl

/-- Adding a zero on the right changes nothing but the sign of a zero. -/
theorem Agrees.add_zero (zero : (z == 0) = true) (x : Float) : Agrees (x + z) x := by
  cases h : x == 0 with
  | true => exact .inr ⟨add_zeros h zero, h⟩
  | false => exact .inl (add_zero_of_ne_zero zero h)

theorem Agrees.zero_add (zero : (z == 0) = true) (x : Float) : Agrees (z + x) x := by
  cases h : x == 0 with
  | true => exact .inr ⟨add_zeros zero h, h⟩
  | false => exact .inl (zero_add_of_ne_zero zero h)

theorem Agrees.add_right (h : Agrees x y) (z : Float) : Agrees (x + z) (y + z) := by
  rcases h with rfl | ⟨hx, hy⟩
  · exact .refl _
  · exact (Agrees.zero_add hx z).trans (Agrees.zero_add hy z).symm

theorem Agrees.foldl_add (h : Agrees x y) (xs : List Float) :
    Agrees (xs.foldl (· + ·) x) (xs.foldl (· + ·) y) := by
  induction xs generalizing x y with
  | nil => exact h
  | cons z xs ih => exact ih (h.add_right z)

/-- Zeros can be left out of a sum. -/
theorem Agrees.foldl_filter (xs : List Float) (x : Float) :
    Agrees ((xs.filter (· != 0)).foldl (· + ·) x) (xs.foldl (· + ·) x) := by
  induction xs generalizing x with
  | nil => exact .refl x
  | cons z xs ih =>
    cases zero : z == 0 with
    | true =>
      rw [List.filter_cons_of_neg (by simp [bne, zero])]
      exact (ih x).trans ((Agrees.add_zero zero x).symm.foldl_add xs)
    | false =>
      rw [List.filter_cons_of_pos (by simp [bne, zero])]
      exact ih (x + z)

theorem beq_self_of_not_isNaN (number : x.isNaN = false) : (x == x) = true := by
  rw [Float.isNaN_eq_decide_eq_nan, decide_eq_false_iff_not] at number
  exact Float.beq_iff_ne_nan_and_eq.2 ⟨number, number, .inl rfl⟩

theorem Agrees.beq (h : Agrees x y) (number : y.isNaN = false) : (x == y) = true := by
  rcases h with rfl | ⟨hx, hy⟩
  · exact beq_self_of_not_isNaN number
  · rcases eq_of_beq_zero hx with rfl | rfl
    · rcases eq_of_beq_zero hy with rfl | rfl <;> rfl
    · rcases eq_of_beq_zero hy with rfl | rfl <;> rfl

end LinProg.Number
