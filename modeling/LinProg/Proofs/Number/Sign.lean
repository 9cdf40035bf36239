import Mathlib
import LinProg.Proofs.Number.Binary64

/-!
# Signs

A double other than the undefined number has a sign, which is the bit that `isNegative` reads.
Negation and the absolute value change nothing else.
-/

namespace LinProg.Number
open Float.Model (Format UnpackedFloat totalExponent)
open Float.Model.UnpackedFloat

theorem eq_of_unpack_eq {x y : Float} (h : x.toModel.unpack = y.toModel.unpack) : x = y := by
  rw [← ofModel_pack_unpack x, h, ofModel_pack_unpack]

theorem unpack_pack_withSign {f : UnpackedFloat → UnpackedFloat}
    (hf : f = UnpackedFloat.neg ∨ f = UnpackedFloat.abs) (x : Float) :
    (Float.Model.pack (f x.toModel.unpack)).unpack = f x.toModel.unpack := by
  cases hu : x.toModel.unpack with
  | infinity s => rcases hf with rfl | rfl <;> cases s <;> rfl
  | notANumber => rcases hf with rfl | rfl <;> rfl
  | zero s => rcases hf with rfl | rfl <;> cases s <;> rfl
  | finite s m e h =>
    have hc := (canonical_of_unpack hu).1
    rcases hf with rfl | rfl
    · exact unpack_pack_of_canonical _ h hc
    · exact unpack_pack_of_canonical _ h hc

theorem unpack_abs (x : Float) : x.abs.toModel.unpack = x.toModel.unpack.abs :=
  unpack_pack_withSign (.inr rfl) x

theorem unpack_neg (x : Float) : (-x).toModel.unpack = x.toModel.unpack.neg :=
  unpack_pack_withSign (.inl rfl) x

theorem testBit_packComponents (s : Sign) (e : BitVec 11) (m : BitVec 52) :
    (packComponents .binary64 s e m).toNat.testBit 63 = (s == .negative) := by
  rw [BitVec.testBit_toNat]
  change (s.toBitVec ++ e ++ m).getLsbD 63 = _
  rw [BitVec.getLsbD_append, BitVec.getLsbD_append]
  cases s <;> rfl

def sign? : UnpackedFloat → Option Sign
  | .infinity s | .zero s | .finite s _ _ _ => some s
  | .notANumber => none

theorem isNegative_of_sign {x : Float} {s : Sign} (h : sign? x.toModel.unpack = some s) :
    isNegative x = (s == .negative) := by
  have hbits : isNegative x = (UnpackedFloat.pack .binary64 x.toModel.unpack).toNat.testBit 63 := by
    conv_lhs => rw [← ofModel_pack_unpack x]
    rfl
  rw [hbits]
  generalize x.toModel.unpack = u at h
  cases u with
  | infinity t =>
    cases h
    exact testBit_packComponents ..
  | notANumber => cases h
  | zero t =>
    cases h
    exact testBit_packComponents ..
  | finite t m e hm =>
    cases h
    dsimp only [UnpackedFloat.pack]
    split
    · exact testBit_packComponents ..
    · split
      · exact testBit_packComponents ..
      · exact testBit_packComponents ..

theorem sign?_of_not_isNaN {x : Float} (h : x.isNaN = false) : ∃ s, sign? x.toModel.unpack = some s := by
  have hnan : x.toModel.unpack.isNaN = false := h
  generalize x.toModel.unpack = u at hnan
  cases u with
  | infinity s => exact ⟨s, rfl⟩
  | notANumber => cases hnan
  | zero s => exact ⟨s, rfl⟩
  | finite s m e hm => exact ⟨s, rfl⟩

theorem abs_of_not_isNegative {x : Float} (hnan : x.isNaN = false) (h : isNegative x = false) :
    x.abs = x := by
  obtain ⟨s, hs⟩ := sign?_of_not_isNaN hnan
  rw [isNegative_of_sign hs] at h
  apply eq_of_unpack_eq
  rw [unpack_abs]
  generalize x.toModel.unpack = u at hs
  cases s with
  | negative => cases h
  | positive => cases u <;> cases hs <;> rfl

theorem isNegative_abs {x : Float} (hnan : x.isNaN = false) : isNegative x.abs = false := by
  have hs : sign? x.abs.toModel.unpack = some .positive := by
    obtain ⟨s, hs⟩ := sign?_of_not_isNaN hnan
    rw [unpack_abs]
    generalize x.toModel.unpack = u at hs
    cases u <;> cases hs <;> rfl
  rw [isNegative_of_sign hs]
  rfl

theorem neg_abs_of_isNegative {x : Float} (hnan : x.isNaN = false) (h : isNegative x = true) :
    -x.abs = x := by
  obtain ⟨s, hs⟩ := sign?_of_not_isNaN hnan
  rw [isNegative_of_sign hs] at h
  apply eq_of_unpack_eq
  rw [unpack_neg, unpack_abs]
  generalize x.toModel.unpack = u at hs
  cases s with
  | negative => cases u <;> cases hs <;> rfl
  | positive => cases h

theorem neg_neg (x : Float) : - -x = x := by
  apply eq_of_unpack_eq
  rw [unpack_neg, unpack_neg]
  generalize x.toModel.unpack = u
  cases u with
  | notANumber => rfl
  | infinity s | zero s | finite s => cases s <;> rfl

end LinProg.Number
