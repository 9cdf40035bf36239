import Mathlib
import LinProg.Proofs.Number.Arithmetic

/-!
# The rational numbers of doubles

A finite double stands for a rational number.  Negation is exact, and two finite doubles compare as their
numbers do: `compare_eq_compare`.
-/

namespace LinProg.Number
open Float.Model (Format UnpackedFloat)
open Float.Model.UnpackedFloat

/-- The rational number that a double stands for; an infinity and the undefined number stand for
none. -/
def rational? (x : Float) : Option ℚ :=
  match x.toModel.unpack with
  | .zero _ => some 0
  | .finite s m e _ => some ((s.apply (m : Int) : ℚ) * 2 ^ e)
  | _ => none

/-- The rational number that a double stands for, zero if there is none. -/
def rational (x : Float) : ℚ := (rational? x).getD 0

variable {x y : Float} {p q : ℚ}

theorem rational_of_rational? (h : rational? x = some q) : rational x = q := by
  unfold rational
  rw [h]
  rfl

theorem rational?_zero : rational? 0 = some 0 := rfl

/-! ### Negation -/

theorem rational?_neg (x : Float) : rational? (-x) = (rational? x).map (- ·) := by
  unfold rational?
  rw [unpack_neg]
  cases x.toModel.unpack with
  | zero s => simp [UnpackedFloat.neg]
  | finite s m e _ => cases s <;> simp [UnpackedFloat.neg, Sign.apply]
  | _ => rfl

@[simp] theorem rational_neg (x : Float) : rational (-x) = -rational x := by
  unfold rational
  rw [rational?_neg]
  cases rational? x <;> simp

theorem rational_neg_one : rational (-1) = -1 := by
  have one : rational 1 = 1 := by
    show ((2 ^ 52 : Nat) : ℚ) * 2 ^ (-52 : Int) = 1
    norm_num
  rw [rational_neg, one]

theorem mul_comm (x y : Float) : x * y = y * x := by
  apply congrArg (fun u => Float.ofModel (Float.Model.pack u))
  show UnpackedFloat.mul Format.binary64 x.toModel.unpack y.toModel.unpack =
    UnpackedFloat.mul Format.binary64 y.toModel.unpack x.toModel.unpack
  have signs (s t : Sign) : s * t = t * s := by cases s <;> cases t <;> rfl
  cases x.toModel.unpack <;> cases y.toModel.unpack <;>
    simp [UnpackedFloat.mul, signs, Nat.mul_comm, Int.add_comm]

theorem mul_neg_one (x : Float) : x * -1 = -x := (mul_comm x (-1)).trans (neg_one_mul x)

/-! ### Comparison -/

/-- The larger exponent belongs to the larger magnitude. -/
theorem Canonical.lt_of_exponent_lt {m n : Nat} {e f : Int} (hm : Canonical m e) (hn : Canonical n f)
    (less : e < f) : (m : ℚ) * 2 ^ e < n * 2 ^ f := by
  have long : 2 ^ 52 ≤ n := hn.full.resolve_right (by have := hm.least; omega)
  calc (m : ℚ) * 2 ^ e < 2 ^ 53 * 2 ^ e := mul_lt_mul_of_pos_right (by exact_mod_cast hm.lt) (by positivity)
    _ = 2 ^ 52 * 2 ^ (e + 1) := by
      rw [zpow_add₀ two_ne_zero]
      ring
    _ ≤ 2 ^ 52 * 2 ^ f :=
      mul_le_mul_of_nonneg_left (zpow_le_zpow_right₀ (by norm_num) less) (by positivity)
    _ ≤ n * 2 ^ f := mul_le_mul_of_nonneg_right (by exact_mod_cast long) (by positivity)

theorem Canonical.compare_eq {m n : Nat} {e f : Int} (hm : Canonical m e) (hn : Canonical n f) :
    (compare e f).then (compare m n) = compare ((m : ℚ) * 2 ^ e) (n * 2 ^ f) := by
  rcases lt_trichotomy e f with less | rfl | more
  · rw [Int.compare_eq_lt.2 less, compare_lt_iff_lt.2 (hm.lt_of_exponent_lt hn less)]
    rfl
  · have unit : (0 : ℚ) < 2 ^ e := by positivity
    rw [Int.compare_eq_eq.2 rfl, Ordering.then]
    rcases lt_trichotomy m n with less | rfl | more
    · rw [Nat.compare_eq_lt.2 less, eq_comm, compare_lt_iff_lt]
      exact mul_lt_mul_of_pos_right (by exact_mod_cast less) unit
    · rw [Nat.compare_eq_eq.2 rfl, compare_eq_iff_eq.2 rfl]
    · rw [Nat.compare_eq_gt.2 more, eq_comm, compare_gt_iff_gt]
      exact mul_lt_mul_of_pos_right (by exact_mod_cast more) unit
  · rw [Int.compare_eq_gt.2 more, compare_gt_iff_gt.2 (hn.lt_of_exponent_lt hm more)]
    rfl

/-- A double that stands for a number is a zero, or has a mantissa and an exponent. -/
theorem unpack_of_rational? (h : rational? x = some p) :
    (∃ s, x.toModel.unpack = .zero s ∧ p = 0) ∨
      ∃ s m e positive, x.toModel.unpack = .finite s m e positive ∧ Canonical m e ∧
        p = (s.apply (m : Int) : ℚ) * 2 ^ e := by
  unfold rational? at h
  cases shape : x.toModel.unpack with
  | zero s =>
    rw [shape] at h
    exact .inl ⟨s, rfl, (Option.some.inj h).symm⟩
  | finite s m e positive =>
    rw [shape] at h
    exact .inr ⟨s, m, e, positive, rfl, (canonical_of_unpack shape).1, (Option.some.inj h).symm⟩
  | _ => simp [shape] at h

/-- Finite doubles compare as their numbers do. -/
theorem compare_eq_compare (hx : rational? x = some p) (hy : rational? y = some q) :
    x.toModel.unpack.compare y.toModel.unpack = some (compare p q) := by
  obtain ⟨s, ux, rfl⟩ | ⟨s, m, e, hm, ux, canonical, rfl⟩ := unpack_of_rational? hx <;>
    obtain ⟨t, uy, rfl⟩ | ⟨t, n, f, hn, uy, canonical', rfl⟩ := unpack_of_rational? hy <;>
    rw [ux, uy]
  · rfl
  · have positive : (0 : ℚ) < n * 2 ^ f := by positivity
    cases t
    · exact congrArg some (compare_gt_iff_gt.2 (by simpa [Sign.apply] using positive)).symm
    · exact congrArg some (compare_lt_iff_lt.2 (by simpa [Sign.apply] using positive)).symm
  · have positive : (0 : ℚ) < m * 2 ^ e := by positivity
    cases s
    · exact congrArg some (compare_lt_iff_lt.2 (by simpa [Sign.apply] using positive)).symm
    · exact congrArg some (compare_gt_iff_gt.2 (by simpa [Sign.apply] using positive)).symm
  · have left : (0 : ℚ) < m * 2 ^ e := by positivity
    have right : (0 : ℚ) < n * 2 ^ f := by positivity
    cases s <;> cases t <;>
      simp only [UnpackedFloat.compare, Sign.apply, Int.cast_neg, Int.cast_natCast, neg_mul]
    · rw [canonical.compare_eq canonical']
      rcases lt_trichotomy ((m : ℚ) * 2 ^ e) (n * 2 ^ f) with less | same | more
      · rw [compare_lt_iff_lt.2 less, compare_gt_iff_gt.2 (neg_lt_neg less)]
        rfl
      · rw [same, compare_eq_iff_eq.2 rfl, compare_eq_iff_eq.2 rfl]
        rfl
      · rw [compare_gt_iff_gt.2 more, compare_lt_iff_lt.2 (neg_lt_neg more)]
        rfl
    · rw [compare_lt_iff_lt.2 (by linarith)]
    · rw [compare_gt_iff_gt.2 (by linarith)]
    · rw [canonical.compare_eq canonical']

theorem lt_iff_rational (hx : rational? x = some p) (hy : rational? y = some q) :
    x < y ↔ p < q := by
  rw [lt_iff, compare_eq_compare hx hy, Option.some_inj, compare_lt_iff_lt]

theorem beq_iff_rational (hx : rational? x = some p) (hy : rational? y = some q) :
    (x == y) = true ↔ p = q := by
  rw [beq_iff, compare_eq_compare hx hy, Option.some_inj, compare_eq_iff_eq]

theorem le_iff_rational (hx : rational? x = some p) (hy : rational? y = some q) :
    x ≤ y ↔ p ≤ q := by
  rw [le_iff, lt_iff_rational hx hy, beq_iff_rational hx hy, le_iff_lt_or_eq]

theorem rational?_of_lt_of_lt {low high : Float} (above : low < x) (below : x < high) :
    ∃ q, rational? x = some q := by
  have first := lt_iff.1 above
  have second := lt_iff.1 below
  unfold rational?
  generalize x.toModel.unpack = u at first second
  cases u with
  | zero | finite => exact ⟨_, rfl⟩
  | notANumber => cases second
  | infinity s =>
    cases s
    · generalize low.toModel.unpack = v at first
      cases v with
      | infinity t => cases t <;> cases first
      | zero t | finite t => cases t <;> cases first
      | notANumber => cases first
    · generalize high.toModel.unpack = v at second
      cases v with
      | infinity t => cases t <;> cases second
      | _ => cases second

theorem compare_eq_some {u v : UnpackedFloat} (hu : u.isNaN = false) (hv : v.isNaN = false) :
    ∃ order, u.compare v = some order := by
  cases u with
  | notANumber => cases hu
  | infinity s => cases v with
    | notANumber => cases hv
    | infinity t => exact ⟨_, rfl⟩
    | _ => cases s <;> exact ⟨_, rfl⟩
  | zero s => cases v with
    | notANumber => cases hv
    | zero t => exact ⟨_, rfl⟩
    | infinity t | finite t => cases t <;> exact ⟨_, rfl⟩
  | finite s => cases v with
    | notANumber => cases hv
    | zero t => cases s <;> exact ⟨_, rfl⟩
    | infinity t | finite t => cases s <;> cases t <;> exact ⟨_, rfl⟩

theorem not_lt_iff (hx : x.isNaN = false) (hy : y.isNaN = false) : ¬x < y ↔ y ≤ x := by
  obtain ⟨order, h⟩ := compare_eq_some (u := x.toModel.unpack) (v := y.toModel.unpack) hx hy
  rw [le_iff, lt_iff, lt_iff, beq_iff, compare_swap x.toModel.unpack, h]
  cases order <;> simp

theorem not_isNaN_of_le (h : x ≤ y) : x.isNaN = false ∧ y.isNaN = false := by
  rcases le_iff.1 h with less | same
  · exact not_isNaN_of_lt less
  · obtain ⟨left, right, -⟩ := Float.beq_iff_ne_nan_and_eq.1 same
    simp [Float.isNaN_eq_decide_eq_nan, left, right]

theorem Agrees.not_isNaN (h : Agrees x y) (number : y.isNaN = false) : x.isNaN = false :=
  (not_isNaN_of_le (le_iff.2 (.inr (h.beq number)))).1

theorem compare_of_le (h : x ≤ y) : x.toModel.unpack.compare y.toModel.unpack ≠ some .gt := by
  rcases le_iff.1 h with less | same
  · rw [lt_iff.1 less]
    nofun
  · rw [beq_iff.1 same]
    nofun

theorem not_le_neg_of_le (positive : 0 < x) (above : x ≤ y) : ¬y ≤ -x := by
  intro below
  have sign : (UnpackedFloat.zero .positive).compare x.toModel.unpack = some .lt :=
    lt_iff.1 positive
  have number : y.toModel.unpack.isNaN = false := (not_isNaN_of_le below).1
  have order := compare_of_le above
  have order' := compare_of_le below
  rw [unpack_neg] at order'
  generalize x.toModel.unpack = u at sign order order'
  generalize y.toModel.unpack = v at number order order'
  cases u with
  | notANumber | zero => cases sign
  | infinity s | finite s =>
    cases s
    · cases sign
    · cases v with
      | notANumber => cases number
      | zero => exact order' rfl
      | infinity t | finite t => cases t <;> first | exact order rfl | exact order' rfl

/-! ### Finite doubles -/

theorem isFinite_iff {x : Float} : x.isFinite = true ↔ ∃ q, rational? x = some q := by
  show x.toModel.unpack.isFinite = true ↔ _
  unfold rational?
  cases x.toModel.unpack <;> simp [UnpackedFloat.isFinite]

theorem not_isNaN_of_isFinite (finite : x.isFinite = true) : x.isNaN = false := by
  change x.toModel.unpack.isFinite = true at finite
  show x.toModel.unpack.isNaN = false
  generalize x.toModel.unpack = u at finite
  cases u with
  | notANumber => cases finite
  | _ => rfl

theorem isFinite_iff_ne_infinity (finite : ¬x ≤ -infinity) (above : x ≤ y) :
    y.isFinite = true ↔ y ≠ infinity := by
  constructor
  · rintro finite rfl
    exact absurd finite (by decide +kernel)
  · intro other
    have number : y.toModel.unpack.isNaN = false := (not_isNaN_of_le above).2
    show y.toModel.unpack.isFinite = true
    cases shape : y.toModel.unpack with
    | zero | finite => rfl
    | notANumber =>
      rw [shape] at number
      cases number
    | infinity s =>
      cases s with
      | positive => exact absurd (eq_of_unpack_eq shape) other
      | negative =>
        have least : y = -infinity := eq_of_unpack_eq shape
        exact absurd (least ▸ above) finite

theorem abs_value (s : Sign) (m : Nat) (e : Int) :
    |(s.apply (m : Int) : ℚ) * 2 ^ e| = m * 2 ^ e := by
  cases s <;> simp [Sign.apply]

theorem magnitude_eq (found : rational? x = some p) :
    ((Binary.ofFloat x).mantissa : ℚ) * 2 ^ (Binary.ofFloat x).exponent = |p| := by
  obtain ⟨s, shape, rfl⟩ | ⟨s, m, e, positive, shape, -, rfl⟩ := unpack_of_rational? found
  · have zero : Binary.ofFloat x = ⟨0, -1074⟩ := by
      rcases eq_of_beq_zero (beq_zero_iff.2 ⟨s, shape⟩) with rfl | rfl <;> decide +kernel
    rw [zero]
    simp
  · rw [(canonical_of_unpack shape).2, abs_value]

/-- The natural that a magnitude is rounded up to. -/
theorem ceil_eq (b : Binary) : (b.ceil : Int) = ⌈(b.mantissa : ℚ) * 2 ^ b.exponent⌉ := by
  have value : (b.num : ℚ) = b.mantissa * 2 ^ b.exponent * b.den := by
    unfold Binary.num Binary.den
    rw [Nat.pow_eq, Nat.pow_eq]
    push_cast
    rw [mul_assoc, ← zpow_natCast, ← zpow_natCast, ← zpow_add₀ two_ne_zero]
    congr 2
    omega
  have positive : 0 < b.den := Nat.pow_pos (by decide)
  have unit : (0 : ℚ) < b.den := by exact_mod_cast positive
  have parts := Nat.div_add_mod (b.num + b.den - 1) b.den
  have small := Nat.mod_lt (b.num + b.den - 1) positive
  have least : b.num ≤ b.den * b.ceil ∧ b.den * b.ceil < b.num + b.den := by
    unfold Binary.ceil
    omega
  have least' : (b.num : ℚ) ≤ b.den * b.ceil ∧ (b.den * b.ceil : ℚ) < b.num + b.den := by
    exact_mod_cast least
  rw [value] at least'
  rw [eq_comm, Int.ceil_eq_iff]
  push_cast
  constructor
  · exact lt_of_mul_lt_mul_right (by linarith : _ < _ * (b.den : ℚ)) unit.le
  · exact le_of_mul_le_mul_right (by linarith : _ ≤ _ * (b.den : ℚ)) unit

/-! ### Sums and differences -/

theorem add_comm (x y : Float) : x + y = y + x := by
  apply congrArg (fun u => Float.ofModel (Float.Model.pack u))
  show UnpackedFloat.add Format.binary64 x.toModel.unpack y.toModel.unpack =
    UnpackedFloat.add Format.binary64 y.toModel.unpack x.toModel.unpack
  cases x.toModel.unpack with
  | finite s m e _ => cases y.toModel.unpack with
    | finite t n f _ => simp [UnpackedFloat.add, Int.min_comm, Int.add_comm]
    | _ => rfl
  | infinity s | zero s => cases y.toModel.unpack with
    | infinity t | zero t => cases s <;> cases t <;> rfl
    | _ => rfl
  | notANumber => cases y.toModel.unpack <;> rfl

theorem add_neg (x y : Float) : x + -y = x - y := by
  apply congrArg (fun u => Float.ofModel (Float.Model.pack u))
  show UnpackedFloat.add Format.binary64 x.toModel.unpack (-y).toModel.unpack =
    UnpackedFloat.sub Format.binary64 x.toModel.unpack y.toModel.unpack
  rw [unpack_neg]
  cases x.toModel.unpack with
  | finite s m e _ => cases y.toModel.unpack with
    | finite t n f _ =>
      cases t <;> simp [UnpackedFloat.add, UnpackedFloat.sub, UnpackedFloat.neg, Sign.apply,
        Int.sub_eq_add_neg]
    | _ => rfl
  | _ => cases y.toModel.unpack <;> rfl

/-- The difference of two doubles is a double. -/
def ExactSub (x y : Float) : Prop := rational? (x - y) = some (rational x - rational y)

instance (x y : Float) : Decidable (ExactSub x y) := inferInstanceAs (Decidable (_ = _))

theorem rational_sub (exact : ExactSub x y) : rational (x - y) = rational x - rational y :=
  rational_of_rational? exact

end LinProg.Number
