import Calculator.Proofs.Number.Rounding

namespace Calculator.Number

variable {n d place mantissa : ℕ} {first exponent : ℤ} {x : Decimal}

theorem digitCount_le_iff (n k : ℕ) : digitCount n ≤ k ↔ n < 10 ^ k := by
  induction k generalizing n with
  | zero =>
      rw [digitCount, pow_zero, Nat.lt_one_iff, Nat.le_zero]
      split
      next h => simp [h]
      next h => simp [h]
  | succ k ih =>
      rw [digitCount, pow_succ, ← Nat.div_lt_iff_lt_mul (by decide), ← ih]
      split
      next h => simp [h, digitCount]
      next h => exact Nat.add_le_add_iff_right

theorem exists_digitCount (h : 0 < n) :
    ∃ k, digitCount n = k + 1 ∧ 10 ^ k ≤ n ∧ n < 10 ^ (k + 1) := by
  have hcount : digitCount n ≠ 0 := by
    intro hnone
    have hempty := (digitCount_le_iff n 0).mp hnone.le
    rw [pow_zero] at hempty
    omega
  obtain ⟨k, hk⟩ := Nat.exists_eq_succ_of_ne_zero hcount
  refine ⟨k, hk, ?_, (digitCount_le_iff n _).mp hk.le⟩
  exact not_lt.mp (mt (digitCount_le_iff n k).mpr (by omega))

/-- The exponent of the first digit of a quotient. -/
theorem decimalExponent_eq_log (hn : n ≠ 0) (hd : d ≠ 0) :
    decimalExponent n d = Int.log 10 ((n : ℚ) / d) := by
  have hn' := Nat.pos_of_ne_zero hn
  have hd' := Nat.pos_of_ne_zero hd
  have hcast : (0 : ℚ) < d := Nat.cast_pos.mpr hd'
  have hratio : (0 : ℚ) < n / d := div_pos (Nat.cast_pos.mpr hn') hcast
  symm
  rw [decimalExponent]
  split
  next h =>
    obtain ⟨k, hk, hlow, hhigh⟩ := exists_digitCount (Nat.div_pos h hd')
    rw [Nat.le_div_iff_mul_le hd'] at hlow
    rw [Nat.div_lt_iff_lt_mul hd'] at hhigh
    rw [hk, Nat.cast_succ, add_sub_cancel_right]
    refine log_eq (by decide) hratio ?_ ?_
    · rw [zpow_natCast, le_div_iff₀ hcast]
      exact_mod_cast hlow
    · rw [← Nat.cast_succ, zpow_natCast, div_lt_iff₀ hcast]
      exact_mod_cast hhigh
  next h =>
    have hbelow : 0 < (d - 1) / n := Nat.div_pos (by omega) hn'
    obtain ⟨k, hk, hlow, hhigh⟩ := exists_digitCount hbelow
    rw [Nat.le_div_iff_mul_le hn'] at hlow
    rw [Nat.div_lt_iff_lt_mul hn'] at hhigh
    have hlow' : 10 ^ k * n < d := by omega
    have hhigh' : d ≤ 10 ^ (k + 1) * n := by omega
    rw [hk]
    refine log_eq (by decide) hratio ?_ ?_
    · rw [zpow_neg, zpow_natCast, inv_le_iff_one_le_mul₀ (by positivity), div_mul_eq_mul_div,
        le_div_iff₀ hcast, one_mul, mul_comm]
      exact_mod_cast hhigh'
    · have hexponent : -((k + 1 : ℕ) : ℤ) + 1 = -(k : ℤ) := by omega
      rw [hexponent, zpow_neg, zpow_natCast, div_lt_iff₀ hcast, inv_mul_eq_div,
        lt_div_iff₀ (by positivity), mul_comm]
      exact_mod_cast hlow'

theorem dropTrailingZeros_eq (n : ℕ) :
    n = (dropTrailingZeros n).1 * 10 ^ (dropTrailingZeros n).2 := by
  fun_induction dropTrailingZeros n with
  | case1 => rfl
  | case2 n hn hlast rest zeros hdrop ih =>
      rw [hdrop] at ih
      rw [pow_succ, ← mul_assoc, ← ih]
      omega
  | case3 n hn hlast => rw [pow_zero, mul_one]

namespace Decimal

theorem value_trimmed (d : Decimal) : d.trimmed.value = d.value := by
  have hdrop : (d.digits : ℚ) =
      (dropTrailingZeros d.digits).1 * 10 ^ (dropTrailingZeros d.digits).2 := by
    exact_mod_cast dropTrailingZeros_eq d.digits
  rw [value, value, hdrop, trimmed, zpow_add₀ (by norm_num), zpow_natCast]
  ring

theorem digits_ne_zero (h : 0 < x.value) : x.digits ≠ 0 := by
  intro hzero
  simp [value, hzero] at h

end Decimal

theorem gridPoint_digits (n d : ℕ) (exponent : ℤ) :
    (gridPoint n d exponent).1.digits = ⌊(n : ℚ) / d * 10 ^ (-exponent)⌋₊ := by
  rw [zpow_eq_div (by norm_num), Int.neg_neg, div_mul_div_comm]
  have hfloor :=
    Nat.floor_div_eq_div (K := ℚ) (n * 10 ^ (-exponent).toNat) (d * 10 ^ exponent.toNat)
  push_cast at hfloor
  exact hfloor.symm

/-- A decimal that is found on a grid reads back as the place that it is looked for, and it is the
grid's point below the quotient or the next one. -/
theorem onGrid?_eq_some (h : onGrid? place n d exponent = some x) :
    x.place = place ∧ x.exponent = exponent ∧
      (x.digits = (gridPoint n d exponent).1.digits ∨
        x.digits = (gridPoint n d exponent).1.digits + 1) := by
  have hexponent : (gridPoint n d exponent).1.exponent = exponent := rfl
  rw [onGrid?] at h
  generalize gridPoint n d exponent = point at h hexponent
  obtain ⟨below, side⟩ := point
  have hmem := List.mem_of_find?_eq_some h
  have hplace := List.find?_some h
  have hpair : x = below ∨ x = { below with digits := below.digits + 1 } := by
    split at hmem
    · simpa using hmem
    · simpa [or_comm] using hmem
  refine ⟨beq_iff_eq.mp hplace, ?_⟩
  rcases hpair with rfl | rfl
  · exact ⟨hexponent, .inl rfl⟩
  · exact ⟨hexponent, .inr rfl⟩

theorem onFirstGrid?_eq_some {fuel count : ℕ}
    (h : onFirstGrid? place n d first fuel count = some x) :
    ∃ more, onGrid? place n d (first - (count + more : ℕ) + 1) = some x := by
  induction fuel generalizing count with
  | zero => cases h
  | succ fuel ih =>
      rw [onFirstGrid?] at h
      cases hgrid : onGrid? place n d (first - count + 1) with
      | some y =>
          rw [hgrid] at h
          exact ⟨0, hgrid.trans h⟩
      | none =>
          rw [hgrid] at h
          obtain ⟨more, hmore⟩ := ih h
          refine ⟨more + 1, ?_⟩
          rwa [← add_assoc, add_right_comm]

/-- On a grid that has the powers of ten around a quotient, the neighbours of the quotient are
between them. -/
theorem bounds_of_onGrid? (h : onGrid? place n d exponent = some x) (hfine : exponent ≤ first)
    (hlow : (10 : ℚ) ^ first ≤ n / d) (hhigh : (n : ℚ) / d < 10 ^ (first + 1)) :
    (10 : ℚ) ^ first ≤ x.value ∧ x.value ≤ 10 ^ (first + 1) := by
  obtain ⟨-, hexponent, hdigits⟩ := onGrid?_eq_some h
  obtain ⟨k, hk⟩ := Int.eq_ofNat_of_zero_le (sub_nonneg.mpr hfine)
  have hstep : (0 : ℚ) < 10 ^ exponent := by positivity
  have hfirst : (10 : ℚ) ^ first = (10 ^ k : ℕ) * 10 ^ exponent := by
    rw [Nat.cast_pow, Nat.cast_ofNat, ← zpow_natCast, ← hk, ← zpow_add₀ (by norm_num),
      sub_add_cancel]
  have hnext : (10 : ℚ) ^ (first + 1) = (10 ^ (k + 1) : ℕ) * 10 ^ exponent := by
    rw [zpow_add_one₀ (by norm_num), hfirst]
    push_cast
    ring
  rw [hfirst, ← le_div_iff₀ hstep, div_eq_mul_inv, ← zpow_neg] at hlow
  rw [hnext, ← div_lt_iff₀ hstep, div_eq_mul_inv, ← zpow_neg] at hhigh
  have hbelow := gridPoint_digits n d exponent
  have hleast : 10 ^ k ≤ (gridPoint n d exponent).1.digits := by
    rw [hbelow]
    exact Nat.le_floor hlow
  have hgreatest : (gridPoint n d exponent).1.digits < 10 ^ (k + 1) := by
    rw [hbelow]
    exact (Nat.floor_lt' (by positivity)).mpr hhigh
  have hlower : 10 ^ k ≤ x.digits := by omega
  have hupper : x.digits ≤ 10 ^ (k + 1) := by omega
  rw [hfirst, hnext, Decimal.value, hexponent]
  constructor
  · gcongr
  · gcongr

theorem value_exactDecimal (mantissa : ℕ) (exponent : ℤ) :
    (exactDecimal mantissa exponent).value = mantissa * 2 ^ exponent := by
  have hpower := zpow_eq_div (b := 2) two_ne_zero exponent
  have hten : (10 : ℚ) ^ (-((-exponent).toNat : ℤ)) =
      1 / (2 ^ (-exponent).toNat * 5 ^ (-exponent).toNat) := by
    rw [zpow_neg, zpow_natCast, ← mul_pow, one_div]
    norm_num
  rw [exactDecimal, Decimal.value, hpower, hten, Nat.shiftLeft_eq, Nat.pow_eq]
  push_cast
  field_simp

section Shortest

variable (mantissa exponent)

/-- The quotient that a magnitude's decimals are looked for at. -/
theorem shortest_ratio :
    ((mantissa <<< exponent.toNat : ℕ) : ℚ) / (1 <<< (-exponent).toNat : ℕ) =
      mantissa * 2 ^ exponent := by
  rw [shift_ratio, Nat.cast_one, div_one]

variable {mantissa exponent}

theorem shortest_cases (h : mantissa ≠ 0) (place : ℕ) :
    (∃ x grid, onGrid? place (mantissa <<< exponent.toNat) (1 <<< (-exponent).toNat) grid = some x ∧
        grid ≤ Int.log 10 ((mantissa : ℚ) * 2 ^ exponent) ∧
        (shortest place mantissa exponent).value = x.value) ∨
      (shortest place mantissa exponent).value = mantissa * 2 ^ exponent := by
  have hlog : decimalExponent (mantissa <<< exponent.toNat) (1 <<< (-exponent).toNat) =
      Int.log 10 ((mantissa : ℚ) * 2 ^ exponent) := by
    rw [decimalExponent_eq_log (shift_ne_zero h _) (shift_ne_zero one_ne_zero _), shortest_ratio]
  simp only [shortest, if_neg h, Decimal.value_trimmed, hlog]
  cases hsearch : onFirstGrid? place (mantissa <<< exponent.toNat) (1 <<< (-exponent).toNat)
      (Int.log 10 ((mantissa : ℚ) * 2 ^ exponent)) greatestDigitCount 1 with
  | none => exact .inr (value_exactDecimal mantissa exponent)
  | some x =>
      obtain ⟨more, hgrid⟩ := onFirstGrid?_eq_some hsearch
      refine .inl ⟨x, _, hgrid, ?_, rfl⟩
      omega

/-- What is written for a magnitude is read as the magnitude. -/
theorem place_shortest (h : IsPlaceOf place mantissa exponent) :
    (shortest place mantissa exponent).place = place := by
  rcases Decidable.em (mantissa = 0) with rfl | hmantissa
  · refine Decimal.place_of_isPlaceOf h ?_
    simp [shortest, Decimal.value]
  · rcases shortest_cases hmantissa place with ⟨x, grid, hgrid, -, hvalue⟩ | hvalue
    · rw [Decimal.place_congr hvalue]
      exact (onGrid?_eq_some hgrid).1
    · exact Decimal.place_of_isPlaceOf h hvalue

theorem shortest_bounds (h : mantissa ≠ 0) (place : ℕ) (exponent : ℤ) :
    (10 : ℚ) ^ Int.log 10 ((mantissa : ℚ) * 2 ^ exponent) ≤
        (shortest place mantissa exponent).value ∧
      (shortest place mantissa exponent).value ≤
        10 ^ (Int.log 10 ((mantissa : ℚ) * 2 ^ exponent) + 1) := by
  have hpos : (0 : ℚ) < mantissa * 2 ^ exponent := by positivity
  have hlow := Int.zpow_log_le_self (b := 10) (by decide) hpos
  have hhigh := Int.lt_zpow_succ_log_self (b := 10) (by decide) ((mantissa : ℚ) * 2 ^ exponent)
  rw [Nat.cast_ofNat] at hlow hhigh
  rcases shortest_cases h place with ⟨x, grid, hgrid, hfine, hvalue⟩ | hvalue
  · rw [hvalue]
    refine bounds_of_onGrid? hgrid hfine ?_ ?_
    · rwa [shortest_ratio]
    · rwa [shortest_ratio]
  · rw [hvalue]
    exact ⟨hlow, hhigh.le⟩

end Shortest

end Calculator.Number
