import Mathlib
import LinProg.Number.Text

/-!
# Doubles as mantissas and exponents

A finite double other than zero is `m * 2 ^ e` with a canonical pair `m`, `e`.  Rounding, products and
quotients whose exact value is a double give that double; so does a decimal that denotes one, by
`ofScientific_nonneg` and `ofScientific_neg`.
-/

namespace LinProg.Number

open Float.Model (Format UnpackedFloat totalExponent)
open Float.Model.UnpackedFloat

/-- The mantissas and exponents of finite doubles other than zero: 53 bits, fewer of them only at the
least exponent. -/
structure Canonical (m : Nat) (e : Int) : Prop where
  pos : 0 < m
  lt : m < 2 ^ 53
  least : -1074 ≤ e
  most : e ≤ 971
  full : 2 ^ 52 ≤ m ∨ e = -1074

theorem toNat_implicit_append (v : BitVec 52) : (1#1 ++ v).toNat = 2 ^ 52 + v.toNat := by
  rw [BitVec.toNat_append, ← Nat.shiftLeft_add_eq_or_of_lt v.isLt]
  rfl

theorem toNat_unpackMantissa (x : Float) :
    (@unpackMantissa .binary64 x.toModel.toBits.toBitVec).toNat =
      x.toBits.toNat % Nat.pow 2 52 := by
  rw [unpackMantissa_def, BitVec.extractLsb'_toNat]
  rfl

theorem toNat_unpackExponent (x : Float) :
    (@unpackExponent .binary64 x.toModel.toBits.toBitVec).toNat =
      x.toBits.toNat / Nat.pow 2 52 % Nat.pow 2 11 := by
  rw [unpackExponent_def, BitVec.extractLsb'_toNat, Nat.shiftRight_eq_div_pow]
  rfl

/-- A finite double other than zero unpacks to the mantissa and exponent that its bits give. -/
theorem canonical_of_unpack {x : Float} {s : Sign} {m : Nat} {e : Int} {h : 0 < m}
    (hx : x.toModel.unpack = .finite s m e h) : Canonical m e ∧ Binary.ofFloat x = ⟨m, e⟩ := by
  have hmlt := (@unpackMantissa .binary64 x.toModel.toBits.toBitVec).isLt
  have helt := (@unpackExponent .binary64 x.toModel.toBits.toBitVec).isLt
  simp only [Binary.ofFloat, ← toNat_unpackMantissa, ← toNat_unpackExponent]
  change _ < 2 ^ 52 at hmlt
  change _ < 2 ^ 11 at helt
  unfold Float.Model.unpack UnpackedFloat.unpack at hx
  dsimp only at hx
  split at hx
  · split at hx <;> cases hx
  · rename_i hinf
    have hmax : (@unpackExponent .binary64 x.toModel.toBits.toBitVec).toNat ≠ 2047 :=
      fun h => hinf (BitVec.eq_of_toNat_eq h)
    split at hx
    · rename_i hsub
      split at hx
      · cases hx
      · cases hx
        rw [hsub]
        exact ⟨⟨h, by omega, by decide, by decide, .inr rfl⟩, rfl⟩
    · rename_i hnorm
      have hpos : (@unpackExponent .binary64 x.toModel.toBits.toBitVec).toNat ≠ 0 :=
        fun h => hnorm (BitVec.eq_of_toNat_eq h)
      cases hx
      rw [if_neg hpos]
      have hm : (@unpackMantissa .binary64 x.toModel.toBits.toBitVec).toNat +
          Nat.pow 2 52 = _ :=
        (Nat.add_comm ..).trans (toNat_implicit_append _).symm
      have hb : ((Format.binary64.exponentBias : Int) + Format.binary64.mantissaBitsWithoutImplicit)
          = 1075 := rfl
      rw [hb, hm]
      have h52 : Nat.pow 2 52 = 2 ^ 52 := rfl
      exact ⟨⟨by omega, by omega, by omega, by omega, .inl (by omega)⟩, rfl⟩

/-- Packing a mantissa and exponent that are those of a double loses nothing. -/
theorem unpack_pack_of_canonical (s : Sign) {m : Nat} {e : Int} (h : 0 < m) (hc : Canonical m e) :
    (Float.Model.pack (.finite s m e h)).unpack = .finite s m e h := by
  obtain ⟨-, hlt, hleast, hmost, hfull⟩ := hc
  have hbiased : (e + (Format.binary64.exponentBias : Int) +
      Format.binary64.mantissaBitsWithoutImplicit).toNat = (e + 1075).toNat := by
    change (e + 1023 + 52).toNat = _
    omega
  unfold Float.Model.unpack Float.Model.pack
  dsimp only [UnpackedFloat.pack]
  rw [hbiased, if_neg (show ¬2 ^ 11 ≤ (e + 1075).toNat + 1 by omega)]
  by_cases hn : 2 ^ 52 ≤ m
  · have hlog : m.log2 + 1 = Format.binary64.mantissaBits :=
      congrArg (· + 1) ((Nat.log2_eq_iff (by omega)).mpr ⟨hn, hlt⟩)
    have he : (BitVec.ofNat 11 (e + 1075).toNat).toNat = (e + 1075).toNat := by
      rw [BitVec.toNat_ofNat, Nat.mod_eq_of_lt (by omega)]
    have hmant : (1#1 ++ BitVec.ofNat 52 m).toNat = m := by
      rw [toNat_implicit_append, BitVec.toNat_ofNat]
      omega
    have hne (v : BitVec 11) (hv : v.toNat ≠ (e + 1075).toNat) :
        BitVec.ofNat 11 (e + 1075).toNat ≠ v := by
      intro h
      exact hv (h ▸ he)
    rw [if_pos hlog]
    unfold UnpackedFloat.unpack
    simp only [unpackMantissa_packComponents, unpackExponent_packComponents,
      unpackSign_packComponents, Sign.ofBitVec_toBitVec]
    rw [if_neg (hne (-1#11) (by change 2047 ≠ _; omega)),
      if_neg (hne 0#11 (by change 0 ≠ _; omega))]
    simp only [he, hmant]
    congr 1
    change ((e + 1075).toNat : Int) - (1023 + 52) = e
    omega
  · have hlog : m.log2 < 52 := (Nat.log2_lt (by omega)).mpr (by omega)
    have hfield : ¬m.log2 + 1 = Format.binary64.mantissaBits := by
      change ¬m.log2 + 1 = 53
      omega
    have hmant : (BitVec.ofNat 52 m).toNat = m := by
      rw [BitVec.toNat_ofNat, Nat.mod_eq_of_lt (by omega)]
    have hne : BitVec.ofNat 52 m ≠ 0#52 := by
      intro h
      have := congrArg BitVec.toNat h
      rw [hmant] at this
      simp at this
      omega
    rw [if_neg hfield]
    unfold UnpackedFloat.unpack
    simp only [unpackMantissa_packComponents, unpackExponent_packComponents,
      unpackSign_packComponents, Sign.ofBitVec_toBitVec]
    rw [if_neg (by decide), if_pos trivial, dif_neg hne]
    simp only [hmant]
    congr 1
    exact (hfull.resolve_left hn).symm


/-! ### Rounding a number that is a double already -/

theorem log2_mul_two_pow {m : Nat} (h : 0 < m) (k : Nat) : (m * 2 ^ k).log2 = m.log2 + k := by
  induction k with
  | zero => simp
  | succ k ih =>
    have hpos : m * 2 ^ k ≠ 0 := by positivity
    rw [show m * 2 ^ (k + 1) = 2 * (m * 2 ^ k) by ring, Nat.log2_two_mul hpos, ih, Nat.add_assoc]

theorem log2_le_of_canonical {m : Nat} {e : Int} (hc : Canonical m e) : m.log2 ≤ 52 :=
  Nat.le_of_lt_succ ((Nat.log2_lt hc.pos.ne').mpr hc.lt)

/-- The exponent of a double is the one that rounding aims at for its magnitude. -/
theorem targetExponent_of_canonical {m : Nat} {e t : Int} (hc : Canonical m e)
    (ht : t = m.log2 + 1 + e) : Format.binary64.targetExponent t = e := by
  have hlog := log2_le_of_canonical hc
  have hleast := hc.least
  change max (t - 53) (-1074) = e
  rcases hc.full with hfull | hsub
  · have := (Nat.le_log2 hc.pos.ne').mpr hfull
    omega
  · omega

theorem shiftRight_exact (m k : Nat) :
    (ExtendedMantissa.mk (m * 2 ^ k) false false) >>> k = ⟨m, false, false⟩ := by
  change k.repeat ExtendedMantissa.shiftRightOne _ = _
  induction k generalizing m with
  | zero => simp [Nat.repeat]
  | succ k ih =>
    rw [Nat.repeat, show m * 2 ^ (k + 1) = m * 2 * 2 ^ k by ring, ih]
    simp [ExtendedMantissa.shiftRightOne]

theorem shiftToTargetExponent_exact {m : Nat} {e : Int} (hc : Canonical m e) (k : Nat) :
    shiftToTargetExponent Format.binary64 (m * 2 ^ k) (e - k) .exact = (⟨m, false, false⟩, e) := by
  have ht : Format.binary64.targetExponent (totalExponent (m * 2 ^ k) (e - k)) = e := by
    apply targetExponent_of_canonical hc
    rw [totalExponent, log2_mul_two_pow hc.pos]
    omega
  unfold shiftToTargetExponent shiftToExponent
  simp only [ht, sub_sub_cancel, Int.toNat_natCast, ExtendedMantissa.ofMantissaAndAccuracy,
    shiftRight_exact, sub_add_cancel]

/-- Rounding keeps a double that is given with a longer mantissa. -/
theorem roundWithAccuracy_exact (s : Sign) {m : Nat} {e : Int} (hc : Canonical m e) (k : Nat) :
    roundWithAccuracy Format.binary64 s (m * 2 ^ k) (e - k) .exact = .finite s m e hc.pos := by
  have hshort := shiftToTargetExponent_exact hc 0
  simp only [pow_zero, Nat.mul_one, Nat.cast_zero, sub_zero] at hshort
  have hrounded : (ExtendedMantissa.mk m false false).roundedMantissa = m := rfl
  unfold roundWithAccuracy
  simp only [shiftToTargetExponent_exact hc, hrounded, hshort]
  exact dif_neg hc.pos.ne'


/-! ### Products and quotients that are doubles -/

/-- Two dyadic numbers of one value differ by a power of two in the mantissa. -/
theorem mantissa_eq_of_value_eq {m n : Nat} {e f : Int} (hv : (m : ℚ) * 2 ^ e = n * 2 ^ f)
    (hle : e ≤ f) : m = n * 2 ^ (f - e).toNat := by
  have hf : (2 : ℚ) ^ f = 2 ^ (f - e).toNat * 2 ^ e := by
    rw [← zpow_natCast, ← zpow_add₀ two_ne_zero]
    congr 1
    omega
  rw [hf, ← mul_assoc] at hv
  exact_mod_cast mul_right_cancel₀ (zpow_ne_zero e two_ne_zero) hv

/-- Two dyadic numbers of one value have their highest digit at the same place. -/
theorem log2_add_eq_of_value_eq {m n : Nat} {e f : Int} (hm : 0 < m) (hn : 0 < n)
    (hv : (m : ℚ) * 2 ^ e = n * 2 ^ f) : (m.log2 : Int) + e = n.log2 + f := by
  rcases Int.le_total e f with hle | hle
  · rw [mantissa_eq_of_value_eq hv hle, log2_mul_two_pow hn]
    omega
  · rw [mantissa_eq_of_value_eq hv.symm hle, log2_mul_two_pow hm]
    omega

theorem log2_mul_le {m n : Nat} (hm : 0 < m) (hn : 0 < n) :
    (m * n).log2 ≤ m.log2 + n.log2 + 1 := by
  have hprod : m * n < 2 ^ (m.log2 + 1) * 2 ^ (n.log2 + 1) :=
    Nat.mul_lt_mul'' Nat.lt_log2_self Nat.lt_log2_self
  rw [← Nat.pow_add] at hprod
  have := (Nat.log2_lt (Nat.mul_pos hm hn).ne').mpr hprod
  omega

theorem roundWithAccuracy_of_value_eq (s : Sign) {m n : Nat} {e f : Int} (hc : Canonical m e)
    (hv : (n : ℚ) * 2 ^ f = m * 2 ^ e) (hle : f ≤ e) :
    roundWithAccuracy Format.binary64 s n f .exact = .finite s m e hc.pos := by
  have hround := roundWithAccuracy_exact s hc (e - f).toNat
  rwa [← mantissa_eq_of_value_eq hv hle, show e - ((e - f).toNat : Int) = f by omega] at hround

/-- A quotient that is a double is found exactly. -/
theorem div_of_value_eq {s t : Sign} {m₁ m₂ m : Nat} {e₁ e₂ e : Int} {h₁ : 0 < m₁} {h₂ : 0 < m₂}
    (hc : Canonical m e) (hv : (m₁ : ℚ) * 2 ^ e₁ = m * 2 ^ e * (m₂ * 2 ^ e₂)) :
    UnpackedFloat.div Format.binary64 (.finite s m₁ e₁ h₁) (.finite t m₂ e₂ h₂) =
      .finite (s / t) m e hc.pos := by
  have hvalue : (m₁ : ℚ) * 2 ^ e₁ = ((m₂ * m : Nat) : ℚ) * 2 ^ (e + e₂) := by
    rw [hv, zpow_add₀ two_ne_zero]
    push_cast
    ring
  have htop := log2_add_eq_of_value_eq h₁ (Nat.mul_pos h₂ hc.pos) hvalue
  have hmul := log2_mul_le h₂ hc.pos
  have hlog := log2_le_of_canonical hc
  have hleast := hc.least
  generalize hw : min (e₁ - e₂)
    (Format.binary64.targetExponent (totalExponent m₁ e₁ - totalExponent m₂ e₂)) = w
  have hwe : w ≤ e := by
    have : max ((m₁.log2 + 1 + e₁ - (m₂.log2 + 1 + e₂)) - 53) (-1074) ≤ e := by omega
    exact hw ▸ (min_le_right _ _).trans this
  have hwe₁ : w ≤ e₁ - e₂ := hw ▸ min_le_left _ _
  have hshift : m₁ <<< (e₁ - e₂ - w).toNat = m₂ * (m * 2 ^ (e - w).toNat) := by
    rw [Nat.shiftLeft_eq, ← Nat.mul_assoc]
    have hshifted : ((m₁ * 2 ^ (e₁ - e₂ - w).toNat : Nat) : ℚ) * 2 ^ (w + e₂) =
        ((m₂ * m : Nat) : ℚ) * 2 ^ (e + e₂) := by
      rw [← hvalue]
      push_cast
      rw [mul_assoc, ← zpow_natCast, ← zpow_add₀ two_ne_zero]
      congr 2
      omega
    rw [mantissa_eq_of_value_eq hshifted (by omega)]
    congr 2
    omega
  have hdivCore : divCore Format.binary64 m₁ e₁ m₂ e₂ = (m * 2 ^ (e - w).toNat, w, .exact) := by
    unfold divCore
    simp only [hw, hshift, Nat.mul_div_cancel_left _ h₂, Nat.mul_mod_right]
    rfl
  unfold UnpackedFloat.div
  simp only [hdivCore]
  have hround := roundWithAccuracy_exact (s / t) hc (e - w).toNat
  rwa [show e - ((e - w).toNat : Int) = w by omega] at hround


/-! ### Decimals that denote a double -/

/-- A product that is a double is found exactly, if the factors have digits enough. -/
theorem mul_of_value_eq {s t : Sign} {m₁ m₂ m : Nat} {e₁ e₂ e : Int} {h₁ : 0 < m₁} {h₂ : 0 < m₂}
    (hc : Canonical m e) (hv : (m₁ : ℚ) * 2 ^ e₁ * (m₂ * 2 ^ e₂) = m * 2 ^ e)
    (hlong : 52 ≤ m₁.log2) :
    UnpackedFloat.mul Format.binary64 (.finite s m₁ e₁ h₁) (.finite t m₂ e₂ h₂) =
      .finite (s * t) m e hc.pos := by
  have hvalue : ((m₁ * m₂ : Nat) : ℚ) * 2 ^ (e₁ + e₂) = m * 2 ^ e := by
    rw [← hv, zpow_add₀ two_ne_zero]
    push_cast
    ring
  have htop := log2_add_eq_of_value_eq (Nat.mul_pos h₁ h₂) hc.pos hvalue
  have hlog := log2_le_of_canonical hc
  have hgrow : m₁.log2 ≤ (m₁ * m₂).log2 :=
    (Nat.le_log2 (Nat.mul_pos h₁ h₂).ne').mpr
      ((Nat.log2_self_le h₁.ne').trans (Nat.le_mul_of_pos_right _ h₂))
  exact roundWithAccuracy_of_value_eq _ hc hvalue (by omega)

/-- A natural below `2 ^ 53` is a double. -/
theorem unpack_toFloat {c : Nat} (hpos : 0 < c) (hlt : c < 2 ^ 53) :
    ∃ m e h, c.toUInt64.toFloat.toModel.unpack = .finite .positive m e h ∧
      (m : ℚ) * 2 ^ e = c ∧ 52 ≤ m.log2 := by
  have hlog : c.log2 ≤ 52 := Nat.le_of_lt_succ ((Nat.log2_lt hpos.ne').mpr hlt)
  have hlong : (c * 2 ^ (52 - c.log2)).log2 = 52 := by
    rw [log2_mul_two_pow hpos]
    omega
  have hm : 0 < c * 2 ^ (52 - c.log2) := by positivity
  have hbounds := (Nat.log2_eq_iff hm.ne').mp hlong
  have hc : Canonical (c * 2 ^ (52 - c.log2)) (c.log2 - 52 : Int) :=
    ⟨hm, hbounds.2, by omega, by omega, .inl hbounds.1⟩
  have hround : UnpackedFloat.round Format.binary64 .positive c 0 =
      .finite .positive (c * 2 ^ (52 - c.log2)) (c.log2 - 52 : Int) hm := by
    have htarget : Format.binary64.targetExponent (totalExponent c 0) = (c.log2 - 52 : Int) := by
      change max ((c.log2 : Int) + 1 + 0 - 53) (-1074) = _
      omega
    have hexact := roundWithAccuracy_exact .positive hc 0
    simp only [pow_zero, Nat.mul_one, Nat.cast_zero, sub_zero] at hexact
    unfold UnpackedFloat.round decreaseExponent
    simp only [htarget, Nat.shiftLeft_eq, show (0 - ((c.log2 : Int) - 52)).toNat = 52 - c.log2 by omega,
      show (0 : Int) - ((52 - c.log2 : Nat) : Int) = (c.log2 : Int) - 52 by omega]
    exact hexact
  refine ⟨c * 2 ^ (52 - c.log2), c.log2 - 52, hm, ?_, ?_, hlong.ge⟩
  · have hword : c.toUInt64.toNat = c := by simp; omega
    change (Float.Model.pack (UnpackedFloat.normalize Format.binary64 (c.toUInt64.toNat : Int) 0
      .positive)).unpack = _
    unfold UnpackedFloat.normalize
    rw [hword, Int.compare_eq_gt.mpr (by omega)]
    dsimp only
    rw [Int.toNat_natCast, hround]
    exact unpack_pack_of_canonical _ _ hc
  · push_cast
    rw [mul_assoc, ← zpow_natCast, ← zpow_add₀ two_ne_zero]
    rw [show ((52 - c.log2 : Nat) : Int) + ((c.log2 : Int) - 52) = 0 by omega]
    simp

def isNat (n : Nat) : UnpackedFloat → Bool
  | .finite .positive m e _ => m * 2 ^ e.toNat = n * 2 ^ (-e).toNat
  | _ => false

theorem isNat_iff {n : Nat} {u : UnpackedFloat} (h : isNat n u = true) :
    ∃ m e h, u = .finite .positive m e h ∧ (m : ℚ) * 2 ^ e = n := by
  unfold isNat at h
  split at h
  · rename_i m e hpos
    refine ⟨m, e, hpos, rfl, ?_⟩
    have hcast : (m : ℚ) * 2 ^ e.toNat = n * 2 ^ (-e).toNat := by exact_mod_cast of_decide_eq_true h
    have hsplit : (2 : ℚ) ^ e * 2 ^ (-e).toNat = 2 ^ e.toNat := by
      rw [← zpow_natCast, ← zpow_natCast, ← zpow_add₀ two_ne_zero]
      congr 1
      omega
    rw [← hsplit, ← mul_assoc] at hcast
    exact mul_right_cancel₀ (pow_ne_zero _ two_ne_zero) hcast
  · exact absurd h (by simp)

theorem isNat_powerOfTen : ∀ k : Fin 23,
    isNat (10 ^ k.val) (Float.exactlyRepresentablePowersOfTen[k]).toModel.unpack = true := by
  decide +kernel


theorem ofModel_pack_unpack (x : Float) : Float.ofModel (Float.Model.pack x.toModel.unpack) = x :=
  Float.ofBits_toBits x

theorem ofModel_pack_of_unpack {x : Float} {u : UnpackedFloat} (h : x.toModel.unpack = u) :
    Float.ofModel (Float.Model.pack u) = x :=
  h ▸ ofModel_pack_unpack x

variable {x : Float} {m : Nat} {e : Int} {h : 0 < m}

theorem ofScientific_nonneg (hx : x.toModel.unpack = .finite .positive m e h) {c k : Nat}
    (hv : (c : ℚ) * 10 ^ k = m * 2 ^ e) : Float.ofScientific c false k = x := by
  have hc := (canonical_of_unpack hx).1
  have hmpos : (0 : ℚ) < m := by exact_mod_cast h
  have hcpos : 0 < c := by
    have hpos : (0 : ℚ) < c * 10 ^ k := hv ▸ by positivity
    exact_mod_cast pos_of_mul_pos_left hpos (by positivity)
  unfold Float.ofScientific
  split
  · rename_i hfast
    obtain ⟨m₁, e₁, h₁, hu₁, hv₁, hlong⟩ := unpack_toFloat hcpos hfast.1
    obtain ⟨m₂, e₂, h₂, hu₂, hv₂⟩ := isNat_iff (isNat_powerOfTen ⟨k, by omega⟩)
    refine ofModel_pack_of_unpack (hx.trans ?_)
    rw [hu₁]
    erw [hu₂]
    refine (@mul_of_value_eq .positive .positive _ _ _ _ _ _ h₁ h₂ hc ?_ hlong).symm
    rw [hv₁, hv₂, ← hv]
    push_cast
    rfl
  · have hsmall : k ≤ 1024 := by
      have htop : (m : ℚ) * 2 ^ e < 2 ^ (1024 : Nat) := by
        have hm : (m : ℚ) < 2 ^ (53 : Nat) := by exact_mod_cast hc.lt
        have he : (2 : ℚ) ^ e ≤ 2 ^ (971 : Int) := zpow_le_zpow_right₀ (by norm_num) hc.most
        calc (m : ℚ) * 2 ^ e < 2 ^ (53 : Nat) * 2 ^ (971 : Int) :=
              mul_lt_mul hm he (by positivity) (by positivity)
          _ = 2 ^ (1024 : Nat) := by
            rw [← zpow_natCast, ← zpow_natCast, ← zpow_add₀ two_ne_zero]
            rfl
      have hlow : (2 : ℚ) ^ k ≤ c * 10 ^ k :=
        (pow_le_pow_left₀ (by norm_num) (by norm_num) k).trans
          (le_mul_of_one_le_left (by positivity) (by exact_mod_cast hcpos))
      have hlt : (2 : ℚ) ^ k < 2 ^ (1024 : Nat) := hlow.trans_lt (hv ▸ htop)
      exact ((pow_lt_pow_iff_right₀ (by norm_num)).mp hlt).le
    refine ofModel_pack_of_unpack (hx.trans ?_)
    unfold UnpackedFloat.ofScientific
    have hexp : (if false then Int.negOfNat k else Int.ofNat k) = (k : Int) := rfl
    have hpow : ((c <<< Format.binary64.mantissaBits : Nat) : ℚ) = c * 2 ^ (53 : Int) := by
      rw [Nat.shiftLeft_eq]
      push_cast
      rfl
    have hbits : (2 : Int) ^ Format.binary64.exponentBits = 2048 := rfl
    rw [dif_neg hcpos.ne', hexp, hbits, if_neg (show ¬(k : Int) > 2048 by omega),
      if_neg (show ¬(k : Int) < -(2048 + (c.log2 : Int)) by omega),
      if_pos (show (0 : Int) ≤ k by omega)]
    refine (@mul_of_value_eq .positive .positive _ _ _ _ _ _ _ _ hc ?_ ?_).symm
    · rw [hpow, zpow_zero, mul_one, Int.toNat_natCast, ← hv]
      change (c : ℚ) * 2 ^ (53 : Int) * 2 ^ (-53 : Int) * ((10 ^ k : Nat) : ℚ) = _
      rw [mul_assoc (c : ℚ), ← zpow_add₀ two_ne_zero]
      norm_num
    · change 52 ≤ (c <<< 53).log2
      rw [Nat.shiftLeft_eq, log2_mul_two_pow hcpos]
      omega

/-- A decimal with places that denotes a double reads as it. -/
theorem ofScientific_neg (hx : x.toModel.unpack = .finite .positive m e h) {c k : Nat}
    (hv : (c : ℚ) = m * 2 ^ e * 10 ^ (k + 1)) : Float.ofScientific c true (k + 1) = x := by
  have hc := (canonical_of_unpack hx).1
  have hmpos : (0 : ℚ) < m := by exact_mod_cast h
  have hcpos : 0 < c := by
    have : (0 : ℚ) < m * 2 ^ e * 10 ^ (k + 1) := by positivity
    exact_mod_cast hv ▸ this
  unfold Float.ofScientific
  split
  · rename_i hfast
    obtain ⟨m₁, e₁, h₁, hu₁, hv₁, -⟩ := unpack_toFloat hcpos hfast.1
    obtain ⟨m₂, e₂, h₂, hu₂, hv₂⟩ := isNat_iff (isNat_powerOfTen ⟨k + 1, by omega⟩)
    refine ofModel_pack_of_unpack (hx.trans ?_)
    rw [hu₁]
    erw [hu₂]
    refine (@div_of_value_eq .positive .positive _ _ _ _ _ _ h₁ h₂ hc ?_).symm
    rw [hv₁, hv, hv₂]
    push_cast
    rfl
  · have hsmall : k + 1 ≤ c.log2 + 1074 := by
      have hlow : (2 : ℚ) ^ (k + 1) ≤ c * 2 ^ (1074 : Nat) := by
        have hunit : (1 : ℚ) ≤ m * 2 ^ (e + 1074) := by
          have : (1 : ℚ) ≤ m := by exact_mod_cast h
          have : (1 : ℚ) ≤ 2 ^ (e + 1074) := one_le_zpow₀ (by norm_num) (by have := hc.least; omega)
          nlinarith
        have hten : (2 : ℚ) ^ (k + 1) ≤ 10 ^ (k + 1) := by gcongr; norm_num
        have hshift : (c : ℚ) * 2 ^ (1074 : Nat) = m * 2 ^ (e + 1074) * 10 ^ (k + 1) := by
          rw [hv, zpow_add₀ two_ne_zero]
          norm_cast
          ring
        rw [hshift]
        exact hten.trans (le_mul_of_one_le_left (by positivity) hunit)
      rw [← log2_mul_two_pow hcpos]
      exact (Nat.le_log2 (by positivity)).mpr (by exact_mod_cast hlow)
    refine ofModel_pack_of_unpack (hx.trans ?_)
    unfold UnpackedFloat.ofScientific
    have hexp : (if true then Int.negOfNat (k + 1) else Int.ofNat (k + 1)) = -((k : Int) + 1) := rfl
    have hbits : (2 : Int) ^ Format.binary64.exponentBits = 2048 := rfl
    rw [dif_neg hcpos.ne', hexp, hbits, if_neg (show ¬-((k : Int) + 1) > 2048 by omega),
      if_neg (show ¬-((k : Int) + 1) < -(2048 + (c.log2 : Int)) by omega),
      if_neg (show ¬(0 : Int) ≤ -((k : Int) + 1) by omega)]
    refine (@div_of_value_eq .positive .positive _ _ _ _ _ _ _ _ hc ?_).symm
    rw [zpow_zero, mul_one, mul_one, hv, show (- -((k : Int) + 1)).toNat = k + 1 by omega]
    push_cast
    rfl

end LinProg.Number
