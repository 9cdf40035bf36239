import Mathlib
import LinProg.Proofs.Number.Rational

/-!
# Differences that are too large

A dyadic number is rounded to a finite double if it is below `overflow`, the middle between the largest
double and the next power of two, and to an infinity otherwise.  So the difference of two finite doubles is
finite just if the exact one is below `overflow`: `sub_cases`.
-/

namespace LinProg.Number
open Float.Model (Format UnpackedFloat totalExponent)
open Float.Model.UnpackedFloat

/-- The least magnitude that is rounded to an infinity, in the middle between the largest double and the next
power of two. -/
def overflow : ℚ := 2 ^ 1024 - 2 ^ 970

/-! ### Rounding a mantissa -/

/-- A mantissa that is shifted keeps its quotient, and its round bit tells whether at least half a unit is
left over. -/
theorem shiftRight_eq (n k : Nat) :
    ((ExtendedMantissa.mk n false false) >>> k).mantissa = n / 2 ^ k ∧
      ((ExtendedMantissa.mk n false false) >>> k).roundBit = decide (2 ^ k ≤ 2 * (n % 2 ^ k)) := by
  change (k.repeat ExtendedMantissa.shiftRightOne _).mantissa = _ ∧
    (k.repeat ExtendedMantissa.shiftRightOne _).roundBit = _
  induction k with
  | zero => simp [Nat.repeat, Nat.mod_one]
  | succ k ih =>
    rw [Nat.repeat]
    simp only [ExtendedMantissa.shiftRightOne, ih.1]
    constructor
    · rw [Nat.div_div_eq_div_mul, ← Nat.pow_succ]
    · have split : n % 2 ^ (k + 1) = n % 2 ^ k + 2 ^ k * (n / 2 ^ k % 2) := by
        rw [Nat.pow_succ, Nat.mod_mul]
      have small : n % 2 ^ k < 2 ^ k := Nat.mod_lt _ (by positivity)
      rw [split, Nat.pow_succ]
      rcases Nat.mod_two_eq_zero_or_one (n / 2 ^ k) with even | odd
      · simp [even]
        omega
      · simp [odd]
        omega

theorem roundedMantissa_bounds (em : ExtendedMantissa) :
    em.mantissa ≤ em.roundedMantissa ∧ em.roundedMantissa ≤ em.mantissa + 1 := by
  obtain ⟨m, r, s⟩ := em
  cases r <;> cases s <;>
    simp [ExtendedMantissa.roundedMantissa, ExtendedMantissa.accuracy, Accuracy.roundToNearestEven]
  omega

theorem roundedMantissa_of_odd {em : ExtendedMantissa} (odd : em.mantissa % 2 = 1) :
    em.roundedMantissa = em.mantissa + if em.roundBit then 1 else 0 := by
  obtain ⟨m, r, s⟩ := em
  cases r <;> cases s <;>
    simp_all [ExtendedMantissa.roundedMantissa, ExtendedMantissa.accuracy,
      Accuracy.roundToNearestEven]

/-- The longest mantissa is exceeded from the middle above it on. -/
theorem roundedMantissa_lt_iff {n k : Nat} (short : n / 2 ^ k < 2 ^ 53) :
    ((ExtendedMantissa.mk n false false) >>> k).roundedMantissa < 2 ^ 53 ↔
      2 * n < (2 ^ 54 - 1) * 2 ^ k := by
  obtain ⟨mantissa, roundBit⟩ := shiftRight_eq n k
  have parts : 2 ^ k * (n / 2 ^ k) + n % 2 ^ k = n := Nat.div_add_mod n _
  have small : n % 2 ^ k < 2 ^ k := Nat.mod_lt _ (by positivity)
  have bounds := roundedMantissa_bounds ((ExtendedMantissa.mk n false false) >>> k)
  by_cases full : n / 2 ^ k = 2 ^ 53 - 1
  · have odd : ((ExtendedMantissa.mk n false false) >>> k).mantissa % 2 = 1 := by
      rw [mantissa, full]
      rfl
    rw [roundedMantissa_of_odd odd, mantissa, roundBit, full]
    rw [full] at parts
    generalize 2 ^ k = unit at *
    by_cases half : unit ≤ 2 * (n % unit) <;> simp [half] <;> omega
  · have less : n / 2 ^ k + 1 ≤ 2 ^ 53 - 1 := by omega
    refine iff_of_true (by omega) ?_
    have scaled : 2 ^ k * (n / 2 ^ k + 1) ≤ 2 ^ k * (2 ^ 53 - 1) := Nat.mul_le_mul_left _ less
    rw [Nat.mul_add] at scaled
    generalize 2 ^ k = unit at *
    omega

theorem roundedMantissa_le {n k : Nat} (short : n / 2 ^ k < 2 ^ 53) :
    ((ExtendedMantissa.mk n false false) >>> k).roundedMantissa ≤ 2 ^ 53 := by
  have bounds := roundedMantissa_bounds ((ExtendedMantissa.mk n false false) >>> k)
  rw [(shiftRight_eq n k).1] at bounds
  omega

theorem shiftToTargetExponent_eq {n k : Nat} {e t : Int}
    (target : Format.binary64.targetExponent (totalExponent n e) = t) (shift : (t - e).toNat = k) :
    shiftToTargetExponent Format.binary64 n e .exact =
      ((ExtendedMantissa.mk n false false) >>> k, e + k) := by
  unfold shiftToTargetExponent shiftToExponent
  simp only [target, shift, ExtendedMantissa.ofMantissaAndAccuracy]

/-- A mantissa that is rounded to 53 bits keeps the exponent, one that is rounded to the next power of two
is shifted once more. -/
theorem roundWithAccuracy_eq (s : Sign) {n k r : Nat} {t : Int} (least : -1074 ≤ t)
    (target : Format.binary64.targetExponent (totalExponent n (t - k)) = t)
    (rounded : ((ExtendedMantissa.mk n false false) >>> k).roundedMantissa = r)
    (positive : 0 < r) (le : r ≤ 2 ^ 53) :
    roundWithAccuracy Format.binary64 s n (t - k) .exact =
      if r < 2 ^ 53 then .finite s r t positive else .finite s (2 ^ 52) (t + 1) (by decide) := by
  have first := shiftToTargetExponent_eq target (k := k) (by omega)
  unfold roundWithAccuracy
  simp only [first, rounded, sub_add_cancel]
  -- the second shift has something to do after a carry only
  by_cases short : r < 2 ^ 53
  · have log : r.log2 ≤ 52 := Nat.le_of_lt_succ ((Nat.log2_lt positive.ne').2 short)
    have kept : Format.binary64.targetExponent (totalExponent r t) ≤ t := by
      change max ((r.log2 : Int) + 1 + t - 53) (-1074) ≤ t
      omega
    have second := shiftToTargetExponent_eq (n := r) (e := t) (k := 0) rfl (by omega)
    have unshifted (m : ExtendedMantissa) : m >>> 0 = m := rfl
    rw [if_pos short]
    simp [second, unshifted, positive.ne']
  · obtain rfl : r = 2 ^ 53 := by omega
    have next : Format.binary64.targetExponent (totalExponent (2 ^ 53) t) = t + 1 := by
      change max (((2 ^ 53).log2 : Int) + 1 + t - 53) (-1074) = t + 1
      rw [Nat.log2_two_pow]
      omega
    have second := shiftToTargetExponent_eq (k := 1) next (by omega)
    simp only [second, if_neg short]
    rfl

/-! ### Rounding a number -/

theorem overflow_eq : overflow = (2 ^ 54 - 1) * 2 ^ (970 : Int) := by
  unfold overflow
  rw [sub_mul, Rat.one_mul, show (1024 : Nat) = 54 + 970 from rfl, pow_add]
  rfl

theorem overflow_pos : 0 < overflow := by
  rw [overflow_eq]
  exact mul_pos (by norm_num) (by positivity)

theorem dyadic_lt_iff {n k : Nat} {t : Int} {c : ℚ} :
    (n : ℚ) * 2 ^ (t - k) < c * 2 ^ t ↔ (n : ℚ) < c * 2 ^ k := by
  have unit : (0 : ℚ) < 2 ^ (t - k) := by positivity
  rw [show (2 : ℚ) ^ t = 2 ^ k * 2 ^ (t - k) by
    rw [← zpow_natCast, ← zpow_add₀ two_ne_zero]; congr 1; omega]
  rw [← mul_assoc]
  exact mul_lt_mul_iff_left₀ unit

/-- A mantissa of 53 bits is below the overflow up to the exponent 970, and from 972 on it is not.  At 971
it is unless it is rounded up to the next power of two. -/
theorem dyadic_lt_overflow_iff {n k : Nat} {t : Int} (short : n < 2 ^ 53 * 2 ^ k)
    (full : t ≤ 970 ∨ 2 ^ 52 * 2 ^ k ≤ n) :
    (n : ℚ) * 2 ^ (t - k) < overflow ↔
      t ≤ 970 ∨ t = 971 ∧ 2 * n < (2 ^ 54 - 1) * 2 ^ k := by
  have step {a b : Int} (le : a ≤ b) : (2 : ℚ) ^ a ≤ 2 ^ b := zpow_le_zpow_right₀ (by norm_num) le
  rw [overflow_eq]
  rcases lt_trichotomy t 971 with low | rfl | high
  · refine iff_of_true ?_ (.inl (by omega))
    calc (n : ℚ) * 2 ^ (t - k) < 2 ^ 53 * 2 ^ t := dyadic_lt_iff.2 (by exact_mod_cast short)
      _ ≤ 2 ^ 53 * 2 ^ (970 : Int) := mul_le_mul_of_nonneg_left (step (by omega)) (by norm_num)
      _ ≤ (2 ^ 54 - 1) * 2 ^ (970 : Int) := mul_le_mul_of_nonneg_right (by norm_num) (by positivity)
  · have half : ((2 : ℚ) ^ 54 - 1) * 2 ^ (970 : Int) = (2 ^ 54 - 1) / 2 * 2 ^ (971 : Int) := by
      rw [show (971 : Int) = 970 + 1 from rfl, zpow_add₀ two_ne_zero]
      ring
    rw [half, dyadic_lt_iff]
    have doubled : (n : ℚ) < (2 ^ 54 - 1) / 2 * 2 ^ k ↔ 2 * n < (2 ^ 54 - 1) * 2 ^ k := by
      rw [← Nat.cast_lt (α := ℚ)]
      push_cast
      constructor <;> intro <;> linarith
    rw [doubled]
    omega
  · refine iff_of_false (not_lt.2 ?_) (by omega)
    have long : 2 ^ 52 * 2 ^ k ≤ n := full.resolve_left (by omega)
    calc ((2 : ℚ) ^ 54 - 1) * 2 ^ (970 : Int) ≤ 2 ^ 54 * 2 ^ (970 : Int) :=
          mul_le_mul_of_nonneg_right (by norm_num) (by positivity)
      _ = 2 ^ 52 * 2 ^ (972 : Int) := by
        rw [show (972 : Int) = 970 + 2 from rfl, zpow_add₀ two_ne_zero]
        ring
      _ ≤ 2 ^ 52 * 2 ^ t := mul_le_mul_of_nonneg_left (step (by omega)) (by norm_num)
      _ ≤ n * 2 ^ (t - k) := not_lt.1 (mt dyadic_lt_iff.1 (not_lt.2 (by exact_mod_cast long)))

/-- Rounding cuts a mantissa after 53 digits, unless the last place of the least double stands before. -/
theorem digits_of_target {n k : Nat} {t : Int} (positive : 0 < n)
    (target : Format.binary64.targetExponent (totalExponent n (t - k)) = t) (ends : k = 0 ∨ -1074 < t) :
    -1074 ≤ t ∧ n < 2 ^ 53 * 2 ^ k ∧ (2 ^ 52 * 2 ^ k ≤ n ∨ k = 0 ∧ t = -1074) := by
  have place : max ((n.log2 : Int) + 1 + (t - k) - 53) (-1074) = t := target
  rw [← Nat.pow_add, ← Nat.pow_add]
  refine ⟨by omega, (Nat.log2_lt positive.ne').1 (by omega), ?_⟩
  by_cases least : t = -1074
  · exact .inr ⟨by omega, least⟩
  · exact .inl ((Nat.le_log2 positive.ne').1 (by omega))

/-- A dyadic number whose digits end at the last place of a double, or go on after it, is rounded to a
mantissa and an exponent of a double just if it is below the overflow. -/
theorem roundWithAccuracy_cases (s : Sign) {n k : Nat} {t : Int} (positive : 0 < n)
    (target : Format.binary64.targetExponent (totalExponent n (t - k)) = t) (ends : k = 0 ∨ -1074 < t) :
    ∃ m e h, roundWithAccuracy Format.binary64 s n (t - k) .exact = .finite s m e h ∧
      ((n : ℚ) * 2 ^ (t - k) < overflow ∧ Canonical m e ∨
        overflow ≤ (n : ℚ) * 2 ^ (t - k) ∧ 971 < e) := by
  obtain ⟨least, short, full⟩ := digits_of_target positive target ends
  have quotient : n / 2 ^ k < 2 ^ 53 := (Nat.div_lt_iff_lt_mul (by positivity)).2 short
  have below := dyadic_lt_overflow_iff (t := t) short
    (full.elim .inr fun least => .inl (by omega))
  have carry := roundedMantissa_lt_iff quotient
  have le := roundedMantissa_le quotient
  have ge := (roundedMantissa_bounds ((ExtendedMantissa.mk n false false) >>> k)).1
  rw [(shiftRight_eq n k).1] at ge
  generalize rounded : ((ExtendedMantissa.mk n false false) >>> k).roundedMantissa = r at carry le ge
  have long : 2 ^ 52 ≤ r ∨ k = 0 ∧ t = -1074 :=
    full.imp_left fun h => ((Nat.le_div_iff_mul_le (by positivity)).2 h).trans ge
  have filled : 0 < r := by
    rcases long with h | ⟨rfl, -⟩
    · omega
    · rw [Nat.pow_zero, Nat.div_one] at ge
      omega
  rw [roundWithAccuracy_eq s least target rounded filled le]
  -- a carry moves the exponent, which takes a number out of range at the exponent 971 only
  split
  · rename_i fits
    refine ⟨r, t, filled, rfl, ?_⟩
    by_cases top : t ≤ 971
    · refine .inl ⟨below.2 ?_, filled, fits, least, top, long.imp_right And.right⟩
      have := carry.1 fits
      omega
    · exact .inr ⟨not_lt.1 (mt below.1 (by omega)), by omega⟩
  · rename_i carried
    refine ⟨2 ^ 52, t + 1, by decide, rfl, ?_⟩
    by_cases top : t ≤ 970
    · exact .inl ⟨below.2 (.inl top), by decide, by decide, by omega, by omega, .inl (by decide)⟩
    · have above := mt carry.2 carried
      exact .inr ⟨not_lt.1 (mt below.1 (by omega)), by omega⟩

/-- The same of a number whose digits may end anywhere after the last place of the least double. -/
theorem round_cases (s : Sign) {n : Nat} {f : Int} (positive : 0 < n) (least : -1074 ≤ f) :
    ∃ m e h, UnpackedFloat.round Format.binary64 s n f = .finite s m e h ∧
      ((n : ℚ) * 2 ^ f < overflow ∧ Canonical m e ∨ overflow ≤ (n : ℚ) * 2 ^ f ∧ 971 < e) := by
  generalize target : Format.binary64.targetExponent (totalExponent n f) = t
  have place : max ((n.log2 : Int) + 1 + f - 53) (-1074) = t := target
  unfold UnpackedFloat.round decreaseExponent
  simp only [target]
  rcases Int.le_total f t with low | high
  · obtain ⟨k, rfl⟩ : ∃ k : Nat, f = t - k := ⟨(t - f).toNat, by omega⟩
    rw [show (t - (k : Int) - t).toNat = 0 by omega]
    simp only [Nat.shiftLeft_zero, Nat.cast_zero, Int.sub_zero]
    exact roundWithAccuracy_cases s positive target (by omega)
  · obtain ⟨j, rfl⟩ : ∃ j : Nat, f = t + j := ⟨(f - t).toNat, by omega⟩
    rw [show (t + (j : Int) - t).toNat = j by omega, Nat.shiftLeft_eq, add_sub_cancel_right]
    have same : (n : ℚ) * 2 ^ (t + j : Int) = (n * 2 ^ j : Nat) * 2 ^ (t - (0 : Nat) : Int) := by
      rw [zpow_add₀ two_ne_zero, zpow_natCast]
      push_cast
      rw [Int.sub_zero]
      ring
    have shifted : Format.binary64.targetExponent
        (totalExponent (n * 2 ^ j) (t - (0 : Nat) : Int)) = t := by
      refine (congrArg _ ?_).trans target
      unfold totalExponent
      rw [log2_mul_two_pow positive]
      omega
    rw [same]
    have cases := roundWithAccuracy_cases s (n := n * 2 ^ j) (by positivity) shifted (.inl rfl)
    rwa [Nat.cast_zero, Int.sub_zero] at cases ⊢

/-! ### Differences -/

theorem Canonical.lt_overflow {m : Nat} {e : Int} (canonical : Canonical m e) :
    (m : ℚ) * 2 ^ e < overflow := by
  have whole : (m : ℚ) ≤ 2 ^ 53 - 1 := by
    have := Nat.le_sub_one_of_lt canonical.lt
    rw [← Nat.cast_le (α := ℚ)] at this
    exact this.trans (by norm_num)
  calc (m : ℚ) * 2 ^ e ≤ (2 ^ 53 - 1) * 2 ^ (971 : Int) :=
        mul_le_mul whole (zpow_le_zpow_right₀ (by norm_num) canonical.most) (by positivity) (by norm_num)
    _ = (2 ^ 54 - 2) * 2 ^ (970 : Int) := by
      rw [show (971 : Int) = 970 + 1 from rfl, zpow_add₀ two_ne_zero]
      ring
    _ < (2 ^ 54 - 1) * 2 ^ (970 : Int) := mul_lt_mul_of_pos_right (by norm_num) (by positivity)
    _ = overflow := overflow_eq.symm

/-- Packing an exponent that no double has gives an infinity. -/
theorem unpack_pack_of_large (s : Sign) {m : Nat} {e : Int} (h : 0 < m) (large : 971 < e) :
    (Float.Model.pack (.finite s m e h)).unpack = .infinity s := by
  have biased : 2 ^ 11 ≤ (e + (Format.binary64.exponentBias : Int) +
      Format.binary64.mantissaBitsWithoutImplicit).toNat + 1 := by
    change 2 ^ 11 ≤ (e + 1023 + 52).toNat + 1
    omega
  unfold Float.Model.unpack Float.Model.pack
  dsimp only [UnpackedFloat.pack]
  rw [if_pos biased]
  cases s <;> rfl

/-- What a number is packed to that is rounded: something finite below the overflow, an infinity from it
on. -/
theorem pack_round_cases (s : Sign) {n : Nat} {f : Int} (positive : 0 < n) (least : -1074 ≤ f) :
    let u := (Float.Model.pack (UnpackedFloat.round Format.binary64 s n f)).unpack
    (n : ℚ) * 2 ^ f < overflow ∧ u.isFinite = true ∨
      overflow ≤ (n : ℚ) * 2 ^ f ∧ u = .infinity s := by
  obtain ⟨m, e, h, rounded, ⟨below, canonical⟩ | ⟨above, large⟩⟩ := round_cases s positive least
  · rw [rounded, unpack_pack_of_canonical s h canonical]
    exact .inl ⟨below, rfl⟩
  · rw [rounded, unpack_pack_of_large s h large]
    exact .inr ⟨above, rfl⟩

theorem pack_normalize_cases {M e : Int} (least : -1074 ≤ e) :
    let u := (Float.Model.pack (UnpackedFloat.normalize Format.binary64 M e .positive)).unpack
    |(M : ℚ) * 2 ^ e| < overflow ∧ u.isFinite = true ∨
      overflow ≤ |(M : ℚ) * 2 ^ e| ∧ u = .infinity (if M < 0 then .negative else .positive) := by
  have unit : (0 : ℚ) < 2 ^ e := by positivity
  rw [abs_mul, abs_of_pos unit]
  unfold UnpackedFloat.normalize
  rcases lt_trichotomy M 0 with negative | rfl | positive
  · have magnitude : |(M : ℚ)| = ((-M).toNat : ℚ) := by
      rw [abs_of_neg (by exact_mod_cast negative)]
      exact_mod_cast (Int.toNat_of_nonneg (by omega : 0 ≤ -M)).symm
    rw [Int.compare_eq_lt.2 negative, if_pos negative, magnitude]
    exact pack_round_cases .negative (by omega) least
  · rw [Int.compare_eq_eq.2 rfl]
    refine .inl ⟨?_, show (Float.Model.pack (.zero .positive)).unpack.isFinite = true by rfl⟩
    rw [Int.cast_zero, abs_zero, zero_mul]
    exact overflow_pos
  · have magnitude : |(M : ℚ)| = (M.toNat : ℚ) := by
      rw [abs_of_pos (by exact_mod_cast positive)]
      exact_mod_cast (Int.toNat_of_nonneg positive.le).symm
    rw [Int.compare_eq_gt.2 positive, if_neg (by omega), magnitude]
    exact pack_round_cases .positive (by omega) least

variable {x y : Float} {p q : ℚ}

theorem isFinite_unpack_pack {m : Nat} {e : Int} {h : 0 < m} (canonical : Canonical m e)
    (t : Sign) : (Float.Model.pack (.finite t m e h)).unpack.isFinite = true := by
  rw [unpack_pack_of_canonical t h canonical]
  rfl

theorem value_decreaseExponent (s : Sign) {m : Nat} {e f : Int} (le : f ≤ e) :
    (s.apply ((m <<< (e - f).toNat : Nat) : Int) : ℚ) * 2 ^ f = (s.apply (m : Int) : ℚ) * 2 ^ e := by
  have shifted : ((m <<< (e - f).toNat : Nat) : ℚ) * 2 ^ f = m * 2 ^ e := by
    rw [Nat.shiftLeft_eq]
    push_cast
    rw [mul_assoc, ← zpow_natCast, ← zpow_add₀ two_ne_zero]
    congr 2
    omega
  cases s with
  | positive => exact_mod_cast shifted
  | negative =>
    simp only [Sign.apply, Int.cast_neg, neg_mul, neg_inj]
    exact_mod_cast shifted

theorem pack_sub_cases {s t : Sign} {m n : Nat} {e f : Int} {positive : 0 < m} {positive' : 0 < n}
    (he : -1074 ≤ e) (hf : -1074 ≤ f) :
    let p : ℚ := (s.apply (m : Int) : ℚ) * 2 ^ e
    let q : ℚ := (t.apply (n : Int) : ℚ) * 2 ^ f
    let u := (Float.Model.pack (UnpackedFloat.sub Format.binary64 (.finite s m e positive)
      (.finite t n f positive'))).unpack
    |p - q| < overflow ∧ u.isFinite = true ∨
      overflow ≤ |p - q| ∧ u = .infinity (if p < q then .negative else .positive) := by
  intro p q
  have left : p = _ := (value_decreaseExponent s (m := m) (Int.min_le_left e f)).symm
  have right : q = _ := (value_decreaseExponent t (m := n) (Int.min_le_right e f)).symm
  have unit : (0 : ℚ) < 2 ^ min e f := by positivity
  have cases := pack_normalize_cases (M := s.apply ((m <<< (e - min e f).toNat : Nat) : Int) -
    t.apply ((n <<< (f - min e f).toNat : Nat) : Int)) (e := min e f) (by omega)
  have order : p < q ↔ s.apply ((m <<< (e - min e f).toNat : Nat) : Int) -
      t.apply ((n <<< (f - min e f).toNat : Nat) : Int) < 0 := by
    rw [left, right, mul_lt_mul_iff_left₀ unit, Int.cast_lt]
    omega
  simp only [order]
  rw [left, right, ← sub_mul, ← Int.cast_sub]
  exact cases

/-- The difference of two finite doubles is finite if the exact one is below the overflow, and an infinity
otherwise. -/
theorem sub_cases (hx : rational? x = some p) (hy : rational? y = some q) :
    |p - q| < overflow ∧ (x - y).isFinite = true ∨
      overflow ≤ |p - q| ∧ x - y = if p < q then -infinity else infinity := by
  show _ ∧ (Float.Model.pack (UnpackedFloat.sub Format.binary64 x.toModel.unpack
    y.toModel.unpack)).unpack.isFinite = true ∨ _
  obtain ⟨s, ux, rfl⟩ | ⟨s, m, e, hm, ux, canonical, rfl⟩ := unpack_of_rational? hx <;>
    obtain ⟨t, uy, rfl⟩ | ⟨t, n, f, hn, uy, canonical', rfl⟩ := unpack_of_rational? hy <;>
    rw [ux, uy]
  · refine .inl ⟨by rw [sub_self, abs_zero]; exact overflow_pos, ?_⟩
    cases s <;> cases t <;> rfl
  · rw [zero_sub, abs_neg, abs_value]
    exact .inl ⟨canonical'.lt_overflow, isFinite_unpack_pack canonical' (-t)⟩
  · rw [show (s.apply (m : Int) : ℚ) * 2 ^ e - 0 = s.apply (m : Int) * 2 ^ e by ring, abs_value]
    exact .inl ⟨canonical.lt_overflow, isFinite_unpack_pack canonical s⟩
  · refine (pack_sub_cases canonical.least canonical'.least).imp_right ?_
    rintro ⟨above, shape⟩
    refine ⟨above, eq_of_unpack_eq (Eq.trans ?_ (shape.trans ?_))⟩
    · rw [← ux, ← uy]
      rfl
    · split <;> rfl

end LinProg.Number
