import Calculator.Number.Binary64
import Mathlib

/-!
Signs in double arithmetic. Negation goes through sums, products and quotients exactly, with the
signs of zeros, since rounding does not look at the sign. The laws are shown first of unpacked
doubles and carried over by packing; there is one value that is no number, and it is its own
negation.
-/

namespace Calculator.Number

open Float.Model Float.Model.UnpackedFloat

section Unpacked

variable (s t : Float.Model.UnpackedFloat.Sign) (u v : UnpackedFloat)

theorem neg_neg_sign : - -s = s := by
  cases s <;> rfl

theorem neg_mul_sign : -s * t = -(s * t) := by
  cases s <;> cases t <;> rfl

theorem neg_div_sign : -s / t = -(s / t) := by
  cases s <;> cases t <;> rfl

theorem apply_neg_sign (n : Int) : (-s).apply n = -s.apply n := by
  cases s with
  | negative => exact (Int.neg_neg n).symm
  | positive => rfl

theorem neg_neg_unpacked : u.neg.neg = u := by
  cases u <;> simp [UnpackedFloat.neg, neg_neg_sign]

theorem add_neg_unpacked :
    UnpackedFloat.add .binary64 u v.neg = UnpackedFloat.sub .binary64 u v := by
  cases u <;> cases v <;>
    simp [UnpackedFloat.add, UnpackedFloat.sub, UnpackedFloat.neg, apply_neg_sign,
      Int.sub_eq_add_neg]

theorem roundWithAccuracy_neg (m : Nat) (e : Int) (accuracy : Accuracy) :
    roundWithAccuracy .binary64 (-s) m e accuracy =
      (roundWithAccuracy .binary64 s m e accuracy).neg := by
  simp only [roundWithAccuracy]
  split_ifs <;> rfl

theorem neg_mul_unpacked :
    UnpackedFloat.mul .binary64 u.neg v = (UnpackedFloat.mul .binary64 u v).neg := by
  cases u <;> cases v <;>
    simp [UnpackedFloat.mul, UnpackedFloat.neg, neg_mul_sign, roundWithAccuracy_neg]

theorem neg_div_unpacked :
    UnpackedFloat.div .binary64 u.neg v = (UnpackedFloat.div .binary64 u v).neg := by
  cases u <;> cases v <;>
    simp [UnpackedFloat.div, UnpackedFloat.neg, neg_div_sign, roundWithAccuracy_neg]

end Unpacked

section Packing

variable (s : Float.Model.UnpackedFloat.Sign) (e : BitVec 11) (m : BitVec 52)

theorem toBitVec_ofBitVec (b : BitVec 1) :
    (Float.Model.UnpackedFloat.Sign.ofBitVec b).toBitVec = b := by
  revert b
  decide

theorem unpackSign_packComponents :
    .ofBitVec (unpackSign (packComponents .binary64 s e m)) = s := by
  simp only [unpackSign, packComponents, BitVec.extractLsb]
  rw [BitVec.extractLsb'_append_eq_of_le (by decide),
    BitVec.extractLsb'_append_eq_of_le (by decide)]
  cases s <;> rfl

theorem exists_packComponents (b : BitVec 64) : ∃ s e m, packComponents .binary64 s e m = b := by
  refine ⟨.ofBitVec (b.extractLsb' 63 1), b.extractLsb' 52 11, b.extractLsb' 0 52, ?_⟩
  change _ ++ b.extractLsb' 52 11 ++ b.extractLsb' 0 52 = b
  rw [toBitVec_ofBitVec, BitVec.extractLsb'_append_extractLsb'_eq_extractLsb' (by rfl),
    BitVec.extractLsb'_append_extractLsb'_eq_extractLsb' (by rfl)]
  exact BitVec.extractLsb'_eq_self

theorem msb_packComponents : (packComponents .binary64 s e m).msb = s.toBitVec.msb := by
  change (s.toBitVec ++ e ++ m : BitVec (1 + 11 + 52)).msb = _
  rw [BitVec.msb_append, BitVec.msb_append]
  rfl

theorem unpack_packComponents_neg :
    UnpackedFloat.unpack .binary64 (packComponents .binary64 (-s) e m) =
      (UnpackedFloat.unpack .binary64 (packComponents .binary64 s e m)).neg := by
  simp only [UnpackedFloat.unpack, unpackMantissa_packComponents, unpackExponent_packComponents,
    unpackSign_packComponents]
  split_ifs <;> rfl

theorem toNat_implicit : (1#1 ++ m).toNat = 2 ^ 52 + m.toNat := by
  rw [BitVec.toNat_append, ← Nat.shiftLeft_add_eq_or_of_lt m.isLt]
  simp [Nat.shiftLeft_eq]

/-- The leading bit, which is not written, is above all bits of the mantissa. -/
theorem log2_implicit : (1#1 ++ m).toNat.log2 = 52 := by
  have hm := m.isLt
  have hlower : 2 ^ 52 ≤ (1#1 ++ m).toNat := by
    rw [toNat_implicit]
    omega
  have hupper : (1#1 ++ m).toNat < 2 ^ 53 := by
    rw [toNat_implicit]
    omega
  exact (Nat.log2_eq_iff (by omega)).mpr ⟨hlower, hupper⟩

/-- What is a number is packed to the bits that it was unpacked from. -/
theorem pack_unpack_packComponents (h : e = -1#11 → m = 0#52) :
    UnpackedFloat.pack .binary64 (UnpackedFloat.unpack .binary64 (packComponents .binary64 s e m)) =
      packComponents .binary64 s e m := by
  simp only [UnpackedFloat.unpack, unpackMantissa_packComponents, unpackExponent_packComponents,
    unpackSign_packComponents]
  have hbias : ((Format.binary64.exponentBias : Nat) : Int) = 1023 := rfl
  have hm := m.isLt
  have he := e.isLt
  split_ifs with hspecial hinfinite hsmall hzero
  · simp only [UnpackedFloat.pack, packedInfinity, hspecial, hinfinite]
    rfl
  · exact absurd (h hspecial) hinfinite
  · simp only [UnpackedFloat.pack, packedZero, hsmall, hzero]
    rfl
  · -- Below the normal range the exponent is fixed and the mantissa has no leading bit.
    have hpos : m.toNat ≠ 0 := fun h0 => hzero (BitVec.toNat_inj.mp h0)
    have hlog : m.toNat.log2 < 52 := (Nat.log2_lt hpos).mpr hm
    have hexponent : e.toNat = 0 := by
      rw [hsmall]
      rfl
    simp only [UnpackedFloat.pack, hexponent, hbias]
    rw [if_neg (by simp), if_neg (by simp [Format.mantissaBits]; omega), hsmall]
    simp
  · have hfinite : e.toNat ≠ 2047 := fun h0 => hspecial (BitVec.toNat_inj.mp h0)
    have hnormal : e.toNat ≠ 0 := fun h0 => hsmall (BitVec.toNat_inj.mp h0)
    have hexponent :
        ((e.toNat : Int) - (1023 + (52 : Nat)) + 1023 + (52 : Nat)).toNat = e.toNat := by omega
    have hbits : 52 + 1 = Format.binary64.mantissaBits := rfl
    have hbelow : ¬ 2048 ≤ e.toNat + 1 := by omega
    simp only [UnpackedFloat.pack, hbias, log2_implicit]
    rw [hexponent, if_neg hbelow, if_pos hbits]
    congr 1
    · simp
    · rw [← BitVec.toNat_inj, BitVec.toNat_ofNat, toNat_implicit]
      omega

end Packing

/-- A double and its negation differ in the sign alone, unless they are no number. -/
theorem pack_cases (u : UnpackedFloat) : u = .notANumber ∨ ∃ s e m,
    UnpackedFloat.pack .binary64 u = packComponents .binary64 s e m ∧
      UnpackedFloat.pack .binary64 u.neg = packComponents .binary64 (-s) e m := by
  cases u with
  | notANumber => exact .inl rfl
  | infinity s => exact .inr ⟨s, _, _, rfl, rfl⟩
  | zero s => exact .inr ⟨s, _, _, rfl, rfl⟩
  | finite s m e hm =>
      right
      simp only [UnpackedFloat.pack, UnpackedFloat.neg]
      split_ifs
      · exact ⟨s, _, _, rfl, rfl⟩
      · exact ⟨s, _, _, rfl, rfl⟩
      · exact ⟨s, _, _, rfl, rfl⟩

theorem unpack_pack_neg (u : UnpackedFloat) :
    (Float.Model.pack u.neg).unpack = (Float.Model.pack u).unpack.neg := by
  rcases pack_cases u with rfl | ⟨s, e, m, hpack, hneg⟩
  · rfl
  · simp only [Float.Model.pack, Float.Model.unpack, hpack, hneg]
    exact unpack_packComponents_neg s e m

theorem pack_unpack (a : Float.Model) : Float.Model.pack a.unpack = a := by
  obtain ⟨⟨b⟩, hvalid⟩ := a
  suffices h : UnpackedFloat.pack .binary64 (UnpackedFloat.unpack .binary64 b) = b by
    simp only [Float.Model.pack, Float.Model.unpack, h]
  obtain ⟨s, e, m, rfl⟩ := exists_packComponents b
  rcases Decidable.em (e = -1#11 → m = 0#52) with hnumber | hnone
  · exact pack_unpack_packComponents s e m hnumber
  · obtain ⟨hspecial, hnan⟩ := Decidable.not_imp_iff_and_not.mp hnone
    have hbits := hvalid.eq_packedNaN (by simpa using hspecial) (by simpa using hnan)
    change packComponents .binary64 s e m = _ at hbits
    rw [hbits]
    rfl

theorem unpack_neg (a : Float.Model) : (-a).unpack = a.unpack.neg := by
  change (Float.Model.pack a.unpack.neg).unpack = _
  rw [unpack_pack_neg, pack_unpack]

theorem neg_pack (u : UnpackedFloat) : -Float.Model.pack u = Float.Model.pack u.neg := by
  change Float.Model.pack (Float.Model.pack u).unpack.neg = _
  rw [← unpack_pack_neg, pack_unpack]

section Doubles

variable (a b : Float)

theorem neg_neg : - -a = a := by
  change Float.ofModel (- -a.toModel) = a
  rw [← pack_unpack a.toModel, neg_pack, neg_pack, neg_neg_unpacked, pack_unpack]

theorem add_neg : a + -b = a - b := by
  change Float.ofModel
    (Float.Model.pack (UnpackedFloat.add .binary64 a.toModel.unpack (-b.toModel).unpack)) = _
  rw [unpack_neg, add_neg_unpacked]
  rfl

theorem sub_neg : a - -b = a + b := by
  rw [← add_neg, neg_neg]

theorem neg_mul : -a * b = -(a * b) := by
  change Float.ofModel
      (Float.Model.pack (UnpackedFloat.mul .binary64 (-a.toModel).unpack b.toModel.unpack)) =
    Float.ofModel
      (-Float.Model.pack (UnpackedFloat.mul .binary64 a.toModel.unpack b.toModel.unpack))
  rw [unpack_neg, neg_mul_unpacked, neg_pack]

theorem neg_div : -a / b = -(a / b) := by
  change Float.ofModel
      (Float.Model.pack (UnpackedFloat.div .binary64 (-a.toModel).unpack b.toModel.unpack)) =
    Float.ofModel
      (-Float.Model.pack (UnpackedFloat.div .binary64 a.toModel.unpack b.toModel.unpack))
  rw [unpack_neg, neg_div_unpacked, neg_pack]

theorem isNaN_neg : (-a).isNaN = a.isNaN := by
  change (-a.toModel).unpack.isNaN = a.toModel.unpack.isNaN
  rw [unpack_neg]
  cases a.toModel.unpack <;> rfl

theorem neg_beq_zero : (-a == zero) = (a == zero) := by
  have hzero : zero.toModel.unpack = .zero .positive := rfl
  change UnpackedFloat.beq (-a.toModel).unpack zero.toModel.unpack =
    UnpackedFloat.beq a.toModel.unpack zero.toModel.unpack
  rw [unpack_neg, hzero]
  cases a.toModel.unpack with
  | notANumber => rfl
  | infinity s => cases s <;> rfl
  | zero s => rfl
  | finite s m e hm => cases s <;> rfl

end Doubles

theorem isNegative_ofModel (x : Float.Model) :
    isNegative (.ofModel x) = x.toBits.toBitVec.msb := by
  rw [isNegative, BitVec.msb_eq_decide]
  rfl

theorem isNegative_neg {a : Float} (h : a.isNaN = false) : isNegative (-a) = !isNegative a := by
  obtain ⟨x⟩ := a
  change isNegative (.ofModel (-x)) = !isNegative (.ofModel x)
  rw [isNegative_ofModel, isNegative_ofModel, ← pack_unpack x, neg_pack]
  rcases pack_cases x.unpack with hnan | ⟨s, e, m, hpack, hneg⟩
  · change x.unpack.isNaN = false at h
    rw [hnan] at h
    cases h
  · simp only [Float.Model.pack, hpack, hneg, UInt64.toBitVec_ofBitVec]
    rw [msb_packComponents, msb_packComponents]
    cases s <;> rfl

theorem withSignOf_neg {a : Float} (h : a.isNaN = false) (size : Float) :
    withSignOf (-a) size = -withSignOf a size := by
  rw [withSignOf, withSignOf, isNegative_neg h]
  cases isNegative a with
  | false => rfl
  | true => exact (neg_neg size).symm

theorem neg_nan : -nan = nan := rfl

theorem quotient_neg (a b : Float) : quotient (-a) b = -quotient a b := by
  simp only [quotient, neg_beq_zero, isNaN_neg]
  split_ifs with hzero hnone
  · exact neg_nan.symm
  · -- The dividend is a number, so that its negation has the other sign.
    simp only [Bool.or_eq_true, not_or, Bool.not_eq_true] at hnone
    rw [withSignOf_neg hnone.2, neg_mul]
  · exact neg_div a b

end Calculator.Number
