import Calculator.Proofs.Number.Display

namespace Calculator.Number

variable {n d n' d' k : ℕ}

section Powers

theorem zpow_eq_div {b : ℚ} (hb : b ≠ 0) (z : ℤ) : b ^ z = b ^ z.toNat / b ^ (-z).toNat := by
  rw [eq_div_iff (pow_ne_zero _ hb), ← zpow_natCast, ← zpow_natCast, ← zpow_add₀ hb]
  congr 1
  omega

theorem shift_ratio (n d : ℕ) (z : ℤ) :
    ((n <<< z.toNat : ℕ) : ℚ) / (d <<< (-z).toNat : ℕ) = n / d * 2 ^ z := by
  rw [zpow_eq_div two_ne_zero, Nat.shiftLeft_eq, Nat.shiftLeft_eq, div_mul_div_comm]
  push_cast
  rfl

theorem unshift_ratio (n d : ℕ) (z : ℤ) :
    ((n <<< (-z).toNat : ℕ) : ℚ) / (d <<< z.toNat : ℕ) = n / d * 2 ^ (-z) := by
  rw [← shift_ratio, Int.neg_neg]

theorem shift_ne_zero (hd : d ≠ 0) (count : ℕ) : d <<< count ≠ 0 := by
  simpa [Nat.shiftLeft_eq] using hd

theorem log2_bounds (hn : n ≠ 0) :
    (2 : ℚ) ^ (n.log2 : ℤ) ≤ n ∧ (n : ℚ) < 2 ^ ((n.log2 : ℤ) + 1) := by
  constructor
  · exact_mod_cast Nat.log2_self_le hn
  · exact_mod_cast (Nat.lt_log2_self (n := n))

theorem log_eq {b : ℕ} (hb : 1 < b) {q : ℚ} {z : ℤ} (hq : 0 < q) (hlow : (b : ℚ) ^ z ≤ q)
    (hhigh : q < (b : ℚ) ^ (z + 1)) : Int.log b q = z := by
  have hle := (Int.zpow_le_iff_le_log hb hq).mp hlow
  have hlt := (Int.lt_zpow_iff_log_lt hb hq).mp hhigh
  omega

end Powers

/-- The binary exponent of a quotient is found from the lengths of its two numbers, up to one. -/
theorem binaryExponent_eq_log (hn : n ≠ 0) (hd : d ≠ 0) :
    binaryExponent n d = Int.log 2 ((n : ℚ) / d) := by
  have hn' : (0 : ℚ) < n := Nat.cast_pos.mpr (Nat.pos_of_ne_zero hn)
  have hd' : (0 : ℚ) < d := Nat.cast_pos.mpr (Nat.pos_of_ne_zero hd)
  have hratio : (0 : ℚ) < n / d := div_pos hn' hd'
  obtain ⟨hnlow, hnhigh⟩ := log2_bounds hn
  obtain ⟨hdlow, hdhigh⟩ := log2_bounds hd
  have htest (z : ℤ) : d <<< z.toNat ≤ n <<< (-z).toNat ↔ (2 : ℚ) ^ z ≤ n / d := by
    rw [le_div_iff₀ hd', zpow_eq_div two_ne_zero, div_mul_eq_mul_div, div_le_iff₀ (by positivity),
      Nat.shiftLeft_eq, Nat.shiftLeft_eq, mul_comm]
    exact_mod_cast Iff.rfl
  have hlow : (2 : ℚ) ^ ((n.log2 : ℤ) - d.log2 - 1) ≤ n / d := by
    rw [le_div_iff₀ hd', sub_sub, zpow_sub₀ two_ne_zero, div_mul_eq_mul_div,
      div_le_iff₀ (by positivity)]
    gcongr
  have hhigh : (n : ℚ) / d < 2 ^ ((n.log2 : ℤ) - d.log2 + 1) := by
    rw [div_lt_iff₀ hd', sub_add_eq_add_sub, zpow_sub₀ two_ne_zero, div_mul_eq_mul_div,
      lt_div_iff₀ (by positivity)]
    exact mul_lt_mul hnhigh hdlow (by positivity) (by positivity)
  symm
  rw [binaryExponent]
  split
  next h => exact log_eq one_lt_two hratio ((htest _).mp h) hhigh
  next h =>
    refine log_eq one_lt_two hratio hlow ?_
    rw [sub_add_cancel]
    exact not_le.mp (mt (htest _).mpr h)

theorem roundQuotient_mul (hk : 0 < k) (n d : ℕ) :
    roundQuotient (k * n) (k * d) = roundQuotient n d := by
  have hrest : 2 * (k * (n % d)) = k * (2 * (n % d)) := Nat.mul_left_comm _ _ _
  simp only [roundQuotient, Nat.mul_div_mul_left _ _ hk, Nat.mul_mod_mul_left, hrest,
    Nat.mul_lt_mul_left hk]

theorem roundQuotient_congr (hd : d ≠ 0) (hd' : d' ≠ 0) (h : (n : ℚ) / d = n' / d') :
    roundQuotient n d = roundQuotient n' d' := by
  have hcross : d' * n = d * n' := by
    rw [div_eq_div_iff (Nat.cast_ne_zero.mpr hd) (Nat.cast_ne_zero.mpr hd')] at h
    rw [mul_comm, mul_comm d]
    exact_mod_cast h
  rw [← roundQuotient_mul (Nat.pos_of_ne_zero hd'), hcross, mul_comm d' d,
    roundQuotient_mul (Nat.pos_of_ne_zero hd)]

theorem roundQuotient_whole (hd : d ≠ 0) (h : (n : ℚ) / d = k) : roundQuotient n d = k := by
  have hone : roundQuotient k 1 = k := by
    simp [roundQuotient, Nat.mod_one]
  rw [← hone]
  refine roundQuotient_congr hd one_ne_zero ?_
  rw [h, Nat.cast_one, div_one]

/-- Quotients of one value have one nearest magnitude. -/
theorem nearestMagnitude_congr (hd : d ≠ 0) (hd' : d' ≠ 0) (h : (n : ℚ) / d = n' / d') :
    nearestMagnitude n d = nearestMagnitude n' d' := by
  have hzero : n = 0 ↔ n' = 0 := by
    have hratio (n d : ℕ) (hd : d ≠ 0) : n = 0 ↔ (n : ℚ) / d = 0 := by
      simp [hd]
    rw [hratio n d hd, hratio n' d' hd', h]
  rw [nearestMagnitude, nearestMagnitude]
  rcases Decidable.em (n = 0) with hn | hn
  · rw [if_pos hn, if_pos (hzero.mp hn)]
  · have hn' := mt hzero.mpr hn
    rw [if_neg hn, if_neg hn', binaryExponent_eq_log hn hd, binaryExponent_eq_log hn' hd', h]
    generalize max leastExponent (Int.log 2 ((n' : ℚ) / d') - 52) = exponent
    have hrounded : roundQuotient (n <<< (-exponent).toNat) (d <<< exponent.toNat) =
        roundQuotient (n' <<< (-exponent).toNat) (d' <<< exponent.toNat) := by
      refine roundQuotient_congr (shift_ne_zero hd _) (shift_ne_zero hd' _) ?_
      rw [unshift_ratio, unshift_ratio, h]
    simp only [hrounded]

theorem log_magnitude {mantissa : ℕ} (h : mantissa ≠ 0) (exponent : ℤ) :
    Int.log 2 ((mantissa : ℚ) * 2 ^ exponent) = mantissa.log2 + exponent := by
  obtain ⟨hlow, hhigh⟩ := log2_bounds h
  refine log_eq one_lt_two (by positivity) ?_ ?_
  · rw [Nat.cast_ofNat, zpow_add₀ two_ne_zero]
    gcongr
  · rw [Nat.cast_ofNat, add_right_comm, zpow_add₀ two_ne_zero]
    gcongr

/-- The place numbers the magnitude `mantissa * 2 ^ exponent`: the mantissa has a leading bit,
unless the exponent is the least one. -/
structure IsPlaceOf (place mantissa : ℕ) (exponent : ℤ) : Prop where
  least : leastExponent ≤ exponent
  leading : exponent = leastExponent ∨ binadeSize ≤ mantissa
  mantissa_lt : mantissa < 2 * binadeSize
  place_eq : place = (exponent - leastExponent).toNat * binadeSize + mantissa
  finite : place < infinityPlace

variable {place mantissa : ℕ} {exponent : ℤ}

theorem binadeSize_eq : binadeSize = 2 ^ 52 := rfl

theorem infinityPlace_eq : infinityPlace = 2047 * 2 ^ 52 := rfl

theorem leastExponent_eq : leastExponent = -1074 := rfl

namespace IsPlaceOf

variable (h : IsPlaceOf place mantissa exponent)

include h

/-- A magnitude is rounded to itself. -/
theorem nearestMagnitude_eq (hd : d ≠ 0) (hvalue : (n : ℚ) / d = mantissa * 2 ^ exponent) :
    nearestMagnitude n d = place := by
  obtain ⟨hleast, hleading, hlt, hplace, hfinite⟩ := h
  rw [binadeSize_eq] at hleading hlt hplace
  rw [infinityPlace_eq] at hfinite
  rw [leastExponent_eq] at hleast hleading hplace
  have hpower : (0 : ℚ) < 2 ^ exponent := by positivity
  rcases Decidable.em (mantissa = 0) with rfl | hmantissa
  · have hn : n = 0 := by
      simpa [hd] using hvalue
    rw [nearestMagnitude, if_pos hn]
    omega
  · have hn : n ≠ 0 := by
      rintro rfl
      simp [hmantissa, hpower.ne'] at hvalue
    have hlog : binaryExponent n d = mantissa.log2 + exponent := by
      rw [binaryExponent_eq_log hn hd, hvalue, log_magnitude hmantissa]
    have hupper : mantissa.log2 < 53 := (Nat.log2_lt hmantissa).mpr (by omega)
    have hlower : 2 ^ 52 ≤ mantissa → 52 ≤ mantissa.log2 := (Nat.le_log2 hmantissa).mpr
    have hexponent : max leastExponent (binaryExponent n d - 52) = exponent := by
      rw [hlog, leastExponent_eq]
      omega
    have hrounded : roundQuotient (n <<< (-exponent).toNat) (d <<< exponent.toNat) = mantissa := by
      refine roundQuotient_whole (shift_ne_zero hd _) ?_
      rw [unshift_ratio, hvalue, mul_assoc, ← zpow_add₀ two_ne_zero, add_neg_cancel, zpow_zero,
        mul_one]
    simp only [nearestMagnitude, if_neg hn, hexponent, hrounded]
    rw [infinityPlace_eq, leastExponent_eq, binadeSize_eq]
    omega

theorem unique {mantissa' : ℕ} {exponent' : ℤ} (h' : IsPlaceOf place mantissa' exponent') :
    mantissa = mantissa' ∧ exponent = exponent' := by
  obtain ⟨hleast, hleading, hlt, hplace, -⟩ := h
  obtain ⟨hleast', hleading', hlt', hplace', -⟩ := h'
  rw [binadeSize_eq] at *
  rw [leastExponent_eq] at *
  omega

end IsPlaceOf

theorem isPlaceOf_content {a : Float} {negative : Bool}
    (h : content a = .finite negative mantissa exponent) :
    IsPlaceOf (magnitude a) mantissa exponent ∧ isNegative a = negative := by
  have hmagnitude : magnitude a < 2 ^ 63 := Nat.mod_lt _ (by decide)
  rw [content] at h
  rw [binadeSize_eq, leastExponent_eq] at h
  split_ifs at h with hspecial hinfinite hsmall
  · cases h
    refine ⟨⟨?_, .inl rfl, ?_, ?_, ?_⟩, rfl⟩ <;>
      simp only [leastExponent_eq, binadeSize_eq, infinityPlace_eq] <;> omega
  · cases h
    refine ⟨⟨?_, .inr ?_, ?_, ?_, ?_⟩, rfl⟩ <;>
      simp only [leastExponent_eq, binadeSize_eq, infinityPlace_eq] <;> omega

section Doubles

open Float.Model Float.Model.UnpackedFloat

theorem ofNat_positive (e : BitVec 11) (m : BitVec 52) :
    UInt64.ofNat (e.toNat * 2 ^ 52 + m.toNat) = ⟨packComponents .binary64 .positive e m⟩ := by
  have he : e.toNat < 2 ^ 11 := e.isLt
  have hm : m.toNat < 2 ^ 52 := m.isLt
  have hsmall : e.toNat * 2 ^ 52 + m.toNat < UInt64.size := by
    rw [UInt64.size]
    omega
  rw [← UInt64.toNat_inj, UInt64.toNat_ofNat_of_lt' hsmall]
  change _ = (packComponents .binary64 .positive e m).toNat
  rw [toNat_packComponents]
  change _ = 0 * 2 ^ 63 + _ + _
  omega

theorem ofBits_magnitude (a : Float) :
    Float.ofBits (UInt64.ofNat (magnitude a)) = if isNegative a then -a else a := by
  obtain ⟨⟨⟨b⟩, hvalid⟩⟩ := a
  obtain ⟨s, e, m, rfl⟩ := exists_packComponents b
  have hread : Float.ofBits ⟨packComponents .binary64 .positive e m⟩ =
      .ofModel (.pack (.unpack .binary64 (packComponents .binary64 .positive e m))) := rfl
  rw [magnitude_packComponents, ofNat_positive, hread, isNegative_ofModel, msb_packComponents]
  cases s with
  | positive => exact congrArg Float.ofModel (pack_unpack ⟨⟨_⟩, hvalid⟩)
  | negative =>
      exact congrArg (Float.ofModel ∘ Float.Model.pack) (unpack_packComponents_neg .negative e m)

end Doubles

namespace Decimal

def value (d : Decimal) : ℚ := d.digits * 10 ^ d.exponent

variable {d d' : Decimal}

theorem denominator_ne_zero (d : Decimal) : d.denominator ≠ 0 :=
  pow_ne_zero _ (by decide)

theorem ratio_eq (d : Decimal) : (d.numerator : ℚ) / d.denominator = d.value := by
  rw [value, zpow_eq_div (by norm_num), numerator, denominator, mul_div_assoc', Nat.cast_mul]
  simp only [Nat.pow_eq, Nat.cast_pow, Nat.cast_ofNat]

theorem place_congr (h : d.value = d'.value) : d.place = d'.place := by
  refine nearestMagnitude_congr d.denominator_ne_zero d'.denominator_ne_zero ?_
  rw [ratio_eq, ratio_eq, h]

theorem place_of_isPlaceOf (h : IsPlaceOf place mantissa exponent)
    (hvalue : d.value = mantissa * 2 ^ exponent) : d.place = place :=
  h.nearestMagnitude_eq d.denominator_ne_zero (d.ratio_eq.trans hvalue)

/-- A decimal at the magnitude of a double reads back as the double, but for the sign. -/
theorem toFloat_of_place {a : Float} {negative : Bool}
    (h : content a = .finite negative mantissa exponent) (hplace : d.place = magnitude a) :
    (if negative then -d.toFloat else d.toFloat) = a := by
  have hread : d.toFloat = if isNegative a then -a else a := by
    rw [← ofBits_magnitude, ← hplace]
    rfl
  rw [hread, (isPlaceOf_content h).2]
  cases negative with
  | false => rfl
  | true => exact neg_neg a

end Decimal

end Calculator.Number
