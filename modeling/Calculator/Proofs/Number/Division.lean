import Calculator.Proofs.Number.Negation

namespace Calculator.Number

open Float.Model Float.Model.UnpackedFloat

/-- The sign of what is a number. -/
def sign? : UnpackedFloat → Option Float.Model.UnpackedFloat.Sign
  | .notANumber => none
  | .infinity s | .zero s | .finite s _ _ _ => some s

theorem msb_of_sign? {b : BitVec 64} {s : Float.Model.UnpackedFloat.Sign}
    (h : sign? (UnpackedFloat.unpack .binary64 b) = some s) : b.msb = s.toBitVec.msb := by
  obtain ⟨t, e, m, rfl⟩ := exists_packComponents b
  suffices hsign : t = s by rw [msb_packComponents, hsign]
  simp only [UnpackedFloat.unpack, unpackMantissa_packComponents, unpackExponent_packComponents,
    unpackSign_packComponents] at h
  split_ifs at h
  · exact Option.some.inj h
  · cases h
  · exact Option.some.inj h
  · exact Option.some.inj h
  · exact Option.some.inj h

theorem isNegative_of_sign? {a : Float} {s : Float.Model.UnpackedFloat.Sign}
    (h : sign? a.toModel.unpack = some s) : isNegative a = s.toBitVec.msb := by
  rw [← msb_of_sign? h]
  exact isNegative_ofModel a.toModel

theorem withSignOf_of_sign? {a : Float} {s : Float.Model.UnpackedFloat.Sign}
    (h : sign? a.toModel.unpack = some s) (size : Float) :
    withSignOf a size = if s.toBitVec.msb then -size else size := by
  rw [withSignOf, isNegative_of_sign? h]

theorem beq_zero_iff (a : Float) : (a == zero) = true ↔ ∃ s, a.toModel.unpack = .zero s := by
  have hzero : zero.toModel.unpack = .zero .positive := rfl
  change UnpackedFloat.beq a.toModel.unpack zero.toModel.unpack = true ↔ _
  rw [hzero]
  cases a.toModel.unpack with
  | notANumber => exact ⟨nofun, nofun⟩
  | infinity s => cases s <;> exact ⟨nofun, nofun⟩
  | zero s => exact ⟨fun _ => ⟨s, rfl⟩, fun _ => rfl⟩
  | finite s m e hm => cases s <;> exact ⟨nofun, nofun⟩

theorem div_eq (a b : Float) :
    a / b = .ofModel (Float.Model.pack
      (UnpackedFloat.div .binary64 a.toModel.unpack b.toModel.unpack)) := rfl

theorem signed_infinity_mul_one (s t : Float.Model.UnpackedFloat.Sign) :
    (if s.toBitVec.msb then -infinity else infinity) * (if t.toBitVec.msb then -one else one) =
      Float.ofModel (Float.Model.pack (.infinity (s / t))) := by
  cases s <;> cases t <;> rfl

theorem quotient_eq_div (a b : Float) : quotient a b = a / b := by
  rw [quotient]
  split_ifs with hzero hnone
  · obtain ⟨t, ht⟩ := (beq_zero_iff b).mp hzero
    rw [div_eq, ht]
    rcases Bool.or_eq_true_iff.mp hnone with ha | ha
    · obtain ⟨s, hs⟩ := (beq_zero_iff a).mp ha
      rw [hs]
      rfl
    · change a.toModel.unpack.isNaN = true at ha
      cases hs : a.toModel.unpack with
      | notANumber => rfl
      | infinity _ | zero _ | finite _ _ _ _ =>
          rw [hs] at ha
          cases ha
  · obtain ⟨t, ht⟩ := (beq_zero_iff b).mp hzero
    have hb : sign? b.toModel.unpack = some t := by rw [ht]; rfl
    rw [Bool.or_eq_true_iff, not_or] at hnone
    obtain ⟨hazero, hanumber⟩ := hnone
    rw [div_eq, ht, withSignOf_of_sign? hb]
    cases hs : a.toModel.unpack with
    | notANumber =>
        refine absurd ?_ hanumber
        change a.toModel.unpack.isNaN = true
        rw [hs]
        rfl
    | zero s => exact absurd ((beq_zero_iff a).mpr ⟨s, hs⟩) hazero
    | infinity s | finite s _ _ _ =>
        have ha : sign? a.toModel.unpack = some s := by rw [hs]; rfl
        rw [withSignOf_of_sign? ha, signed_infinity_mul_one]
        rfl
  · rfl

end Calculator.Number
