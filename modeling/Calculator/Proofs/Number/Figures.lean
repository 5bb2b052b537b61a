import Calculator.Proofs.Number.Shortest
import Calculator.Proofs.Token.Texts

namespace Calculator

variable {digits whole fraction : List Char}

theorem Digit.value_map_ofChar (h : ∀ c ∈ digits, c.isDigit = true) :
    Digit.value (digits.map Digit.ofChar) = Nat.ofDigitChars 10 digits 0 := by
  have hfold (init : ℕ) : (digits.map Digit.ofChar).foldl (fun n d => 10 * n + d.val) init =
      Nat.ofDigitChars 10 digits init := by
    induction digits generalizing init with
    | nil => rfl
    | cons c rest ih =>
        obtain ⟨hc, hrest⟩ := List.forall_mem_cons.mp h
        have hvalue : (ofChar c).val = c.toNat - '0'.toNat := by
          rw [← Digit.toChar_ofChar hc]
          generalize ofChar c = d
          revert d
          decide
        rw [List.map_cons, List.foldl_cons, ih hrest, Nat.ofDigitChars_cons, hvalue]
  exact hfold 0

/-- Digits, with a point and more digits behind them or without, are a numeral. -/
theorem Numeral.exists_of_digits (hne : whole ≠ []) (hwhole : ∀ c ∈ whole, c.isDigit = true)
    (hfraction : ∀ c ∈ fraction, c.isDigit = true) :
    ∃ n : Numeral, n.chars = whole ++ (if fraction = [] then [] else '.' :: fraction) ∧
      n.decimal = ⟨Nat.ofDigitChars 10 (whole ++ fraction) 0, -(fraction.length : ℤ)⟩ := by
  have hnonempty : whole.map Digit.ofChar ≠ [] := by simpa using hne
  have hchars := Numeral.chars_ofDigits hnonempty (fraction.map Digit.ofChar)
  have hdecimal : (Numeral.ofDigits (whole.map Digit.ofChar) (fraction.map Digit.ofChar)).decimal =
      ⟨Digit.value ((whole ++ fraction).map Digit.ofChar), -(fraction.length : ℤ)⟩ := by
    cases whole with
    | nil => exact absurd rfl hne
    | cons c rest => simp [Numeral.ofDigits, Numeral.decimal, Numeral.whole]
  refine ⟨_, ?_, hdecimal.trans ?_⟩
  · rw [hchars, Digit.map_toChar_ofChar hwhole, Digit.map_toChar_ofChar hfraction]
    simp only [List.map_eq_nil_iff]
  · rw [Digit.value_map_ofChar (List.forall_mem_append.mpr ⟨hwhole, hfraction⟩)]

namespace Number

open Nat (ofDigitChars)

theorem isDigit_of_mem_zeros (count : ℕ) : ∀ c ∈ List.replicate count '0', c.isDigit = true := by
  intro c hc
  rw [List.eq_of_mem_replicate hc]
  rfl

theorem isDigit_of_mem_digitText {n : ℕ} : ∀ c ∈ digitText n, c.isDigit = true :=
  fun _ hc => Nat.isDigit_of_mem_toDigits (by decide) (by decide) hc

section Point

variable {k : ℕ}

theorem withPoint_among (hpositive : 0 < k) (hwithin : k < digits.length) :
    withPoint digits k = digits.take k ++ '.' :: digits.drop k := by
  have hzeros : (-(k : ℤ)).toNat = 0 := by omega
  have htake : (digits.take k).length = k := List.length_take_of_le hwithin.le
  have hwhole : digits.take k ≠ [] := List.ne_nil_of_length_pos (by omega)
  have hfraction : digits.drop k ≠ [] := List.ne_nil_of_length_pos (by rw [List.length_drop]; omega)
  simp [withPoint, hzeros, htake, hwhole, hfraction]

theorem withPoint_behind (hne : digits ≠ []) (more : ℕ) :
    withPoint digits (digits.length + more : ℕ) =
      digits ++ List.replicate more '0' ++ '.' :: ['0'] := by
  have hzeros : (-((digits.length + more : ℕ) : ℤ)).toNat = 0 := by omega
  have hbehind : digits.length ≤ digits.length + more := Nat.le_add_right _ _
  simp only [withPoint, hzeros, Int.toNat_natCast, List.take_of_length_le hbehind,
    List.drop_of_length_le hbehind, Nat.add_sub_cancel_left]
  simp [hne]

theorem withPoint_before (hne : digits ≠ []) (k : ℕ) :
    withPoint digits (-(k : ℤ)) = ['0'] ++ '.' :: (List.replicate k '0' ++ digits) := by
  have hcount : (-(k : ℤ)).toNat = 0 := by omega
  simp [withPoint, hcount, hne]

theorem ofDigitChars_append_zeros (digits : List Char) (more : ℕ) :
    ofDigitChars 10 (digits ++ List.replicate more '0') 0 =
      10 ^ more * ofDigitChars 10 digits 0 := by
  rw [Nat.ofDigitChars_append, Nat.ofDigitChars_replicate_zero]

theorem ofDigitChars_zeros_append (k : ℕ) (digits : List Char) :
    ofDigitChars 10 (List.replicate k '0' ++ digits) 0 = ofDigitChars 10 digits 0 := by
  rw [Nat.ofDigitChars_append, Nat.ofDigitChars_replicate_zero, mul_zero]

/-- Wherever the point is put, zeros make up for the digits that are missing. -/
theorem exists_numeral_withPoint (hne : digits ≠ []) (h : ∀ c ∈ digits, c.isDigit = true)
    (count : ℤ) : ∃ n : Numeral, n.chars = withPoint digits count ∧
      n.decimal.value = ofDigitChars 10 digits 0 * 10 ^ (count - digits.length) := by
  -- It is enough to find the digits on either side of the point.
  suffices hsides : ∃ whole fraction : List Char,
      withPoint digits count = whole ++ '.' :: fraction ∧
      whole ≠ [] ∧ fraction ≠ [] ∧ (∀ c ∈ whole ++ fraction, c.isDigit = true) ∧
      (ofDigitChars 10 (whole ++ fraction) 0 : ℚ) * 10 ^ (-(fraction.length : ℤ)) =
        ofDigitChars 10 digits 0 * 10 ^ (count - digits.length) by
    obtain ⟨whole, fraction, htext, hwhole, hfraction, hdigits, hvalue⟩ := hsides
    obtain ⟨hleft, hright⟩ := List.forall_mem_append.mp hdigits
    obtain ⟨n, hchars, hdecimal⟩ := Numeral.exists_of_digits hwhole hleft hright
    refine ⟨n, ?_, ?_⟩
    · rw [hchars, htext, if_neg hfraction]
    · rw [hdecimal, Decimal.value, hvalue]
  rcases Int.lt_or_le 0 count with hpositive | hbefore
  · obtain ⟨k, rfl⟩ := Int.eq_ofNat_of_zero_le hpositive.le
    rcases Nat.lt_or_ge k digits.length with hwithin | hbehind
    · refine ⟨_, _, withPoint_among (by omega) hwithin, ?_, ?_, ?_, ?_⟩
      · exact List.ne_nil_of_length_pos (by rw [List.length_take]; omega)
      · exact List.ne_nil_of_length_pos (by rw [List.length_drop]; omega)
      · rwa [List.take_append_drop]
      · rw [List.take_append_drop, List.length_drop, Nat.cast_sub hwithin.le, neg_sub]
    · obtain ⟨more, rfl⟩ := Nat.exists_eq_add_of_le hbehind
      have hzeros := isDigit_of_mem_zeros (more + 1)
      have hlast : List.replicate more '0' ++ ['0'] = List.replicate (more + 1) '0' :=
        List.replicate_succ'.symm
      refine ⟨_, _, withPoint_behind hne more, by simp [hne], List.cons_ne_nil _ _, ?_, ?_⟩
      · rw [List.append_assoc, hlast]
        exact List.forall_mem_append.mpr ⟨h, hzeros⟩
      · rw [List.append_assoc, hlast, ofDigitChars_append_zeros, List.length_singleton,
          Nat.cast_add, add_sub_cancel_left, zpow_natCast, Nat.cast_one, zpow_neg_one, pow_succ]
        push_cast
        ring
  · obtain ⟨k, hk⟩ := Int.eq_ofNat_of_zero_le (Int.neg_nonneg.mpr hbefore)
    obtain rfl : count = -k := by omega
    have hzeros := isDigit_of_mem_zeros (k + 1)
    refine ⟨_, _, withPoint_before hne k, List.cons_ne_nil _ _, by simp [hne], ?_, ?_⟩
    · change ∀ c ∈ List.replicate (k + 1) '0' ++ digits, c.isDigit = true
      exact List.forall_mem_append.mpr ⟨hzeros, h⟩
    · have hexponent : -((List.replicate k '0' ++ digits).length : ℤ) = -k - digits.length := by
        rw [List.length_append, List.length_replicate]
        omega
      rw [hexponent]
      exact congrArg (fun n : ℕ => (n : ℚ) * _) (ofDigitChars_zeros_append (k + 1) digits)

end Point

theorem exists_numeral_digitText (n : ℕ) :
    ∃ numeral : Numeral, numeral.chars = digitText n ∧ numeral.decimal.value = n := by
  have hnone : ∀ c ∈ ([] : List Char), c.isDigit = true := List.forall_mem_nil _
  obtain ⟨numeral, hchars, hdecimal⟩ :=
    Numeral.exists_of_digits (Nat.toDigits_ne_nil (n := n) (b := 10)) isDigit_of_mem_digitText hnone
  refine ⟨numeral, ?_, ?_⟩
  · rw [hchars, if_pos rfl, List.append_nil]
    rfl
  · rw [hdecimal, Decimal.value, List.append_nil, Nat.ofDigitChars_ten_toDigits]
    simp

/-- The exponent that decides how a number is written is that of its first digit. -/
theorem firstExponent_eq_log {x : Decimal} (h : x.digits ≠ 0) :
    x.exponent + (digitText x.digits).length - 1 = Int.log 10 x.value := by
  have hlength (k : ℕ) (hk : 0 < k) : (digitText x.digits).length ≤ k ↔ x.digits < 10 ^ k :=
    Nat.length_toDigits_le_iff (by decide) hk
  have hpos : 0 < (digitText x.digits).length := Nat.length_toDigits_pos
  have hvalue : 0 < x.value := by
    rw [Decimal.value]
    positivity
  generalize (digitText x.digits).length = length at hlength hpos
  obtain ⟨k, rfl⟩ := Nat.exists_eq_succ_of_ne_zero hpos.ne'
  have hhigh : x.digits < 10 ^ (k + 1) := (hlength _ hpos).mp le_rfl
  have hlow : 10 ^ k ≤ x.digits := by
    rcases Nat.eq_zero_or_pos k with rfl | hk
    · omega
    · exact not_lt.mp (mt (hlength k hk).mpr (by omega))
  have hexponent : x.exponent + (k + 1 : ℕ) - 1 = k + x.exponent := by omega
  symm
  rw [hexponent]
  refine log_eq (by decide) hvalue ?_ ?_
  · rw [Decimal.value, Nat.cast_ofNat, zpow_add₀ (by norm_num), zpow_natCast]
    gcongr
    exact_mod_cast hlow
  · rw [Decimal.value, Nat.cast_ofNat, add_right_comm, zpow_add₀ (by norm_num)]
    gcongr
    exact_mod_cast hhigh

/-- The first digit of the number is where numbers are written without an exponent. -/
def IsPositional (x : Decimal) : Prop :=
  -4 ≤ x.exponent + (digitText x.digits).length - 1 ∧
    x.exponent + (digitText x.digits).length - 1 ≤ 15

section Layout

variable {x : Decimal} {place mantissa k : ℕ} {exponent : ℤ}

theorem exists_numeral_write (h : IsPositional x) :
    ∃ n : Numeral, n.chars = standard.write x ∧ n.decimal.value = x.value := by
  obtain ⟨n, hchars, hvalue⟩ := exists_numeral_withPoint
    (Nat.toDigits_ne_nil (n := x.digits) (b := 10)) isDigit_of_mem_digitText
    (x.exponent + (digitText x.digits).length)
  refine ⟨n, ?_, ?_⟩
  · have hpositional : standard.leastPositional ≤ x.exponent + (digitText x.digits).length - 1 ∧
        x.exponent + (digitText x.digits).length - 1 ≤ standard.greatestPositional := h
    rw [hchars, Layout.write, if_pos hpositional, sub_add_cancel]
    rfl
  · rw [hvalue, Nat.ofDigitChars_ten_toDigits, Decimal.value]
    congr 2
    exact add_sub_cancel_right _ _

theorem letter_mem_write (h : ¬ IsPositional x) : 'e' ∈ standard.write x := by
  have hexponent : ¬ (standard.leastPositional ≤ x.exponent + (digitText x.digits).length - 1 ∧
      x.exponent + (digitText x.digits).length - 1 ≤ standard.greatestPositional) := h
  rw [Layout.write, if_neg hexponent, withExponent.eq_def]
  exact List.mem_append_right _ List.mem_cons_self

/-- The power of ten behind the range is a magnitude of its own, so that nothing below it is written
as this power. -/
theorem value_shortest_ne (h : IsPlaceOf place mantissa exponent)
    (hbelow : (mantissa : ℚ) * 2 ^ exponent < 10 ^ 16) :
    (shortest place mantissa exponent).value ≠ 10 ^ 16 := by
  intro hpower
  have hplace : IsPlaceOf (1075 * binadeSize + 5 * 10 ^ 15) (5 * 10 ^ 15) 1 := by
    refine ⟨?_, .inr ?_, ?_, ?_, ?_⟩ <;> decide
  have hread := Decimal.place_of_isPlaceOf hplace (hpower.trans (by norm_num))
  rw [← hread, place_shortest h] at hplace
  obtain ⟨rfl, rfl⟩ := h.unique hplace
  norm_num at hbelow

/-- Rounding to fewer digits does not lead out of the range. -/
theorem isPositional_shortest (h : IsPlaceOf place mantissa exponent)
    (hrange : mantissa = 0 ∨
      1 / 10 ^ 4 ≤ (mantissa : ℚ) * 2 ^ exponent ∧ (mantissa : ℚ) * 2 ^ exponent < 10 ^ 16) :
    IsPositional (shortest place mantissa exponent) := by
  rcases Decidable.em (mantissa = 0) with rfl | hmantissa
  · rw [shortest, if_pos rfl]
    exact ⟨by decide, by decide⟩
  · obtain ⟨hleast, hbelow⟩ := hrange.resolve_left hmantissa
    obtain ⟨hlow, hhigh⟩ := shortest_bounds hmantissa place exponent
    have hpos : (0 : ℚ) < mantissa * 2 ^ exponent := by positivity
    have hvalue : 0 < (shortest place mantissa exponent).value :=
      lt_of_lt_of_le (by positivity) hlow
    have hfirst : -4 ≤ Int.log 10 ((mantissa : ℚ) * 2 ^ exponent) := by
      refine (Int.zpow_le_iff_le_log (by decide) hpos).mp (le_trans ?_ hleast)
      norm_num
    have hlast : Int.log 10 ((mantissa : ℚ) * 2 ^ exponent) < 16 :=
      (Int.lt_zpow_iff_log_lt (by decide) hpos).mp (by exact_mod_cast hbelow)
    have hlower : -4 ≤ Int.log 10 (shortest place mantissa exponent).value := by
      refine (Int.zpow_le_iff_le_log (by decide) hvalue).mp (le_trans ?_ hlow)
      exact zpow_le_zpow_right₀ (by norm_num) hfirst
    have hupper : Int.log 10 (shortest place mantissa exponent).value < 16 := by
      refine (Int.lt_zpow_iff_log_lt (by decide) hvalue).mp (lt_of_le_of_ne ?_ ?_)
      · refine le_trans hhigh ?_
        exact zpow_le_zpow_right₀ (by norm_num) (by omega)
      · exact_mod_cast value_shortest_ne h hbelow
    rw [IsPositional, firstExponent_eq_log (Decimal.digits_ne_zero hvalue)]
    omega

/-- The whole numbers among the magnitudes. -/
theorem natural?_eq_some_iff :
    natural? mantissa exponent = some k ↔ (k : ℚ) = mantissa * 2 ^ exponent := by
  rcases Int.le_total 0 exponent with hexponent | hexponent
  · obtain ⟨z, rfl⟩ := Int.eq_ofNat_of_zero_le hexponent
    have hzero : (-(z : ℤ)).toNat = 0 := by omega
    rw [natural?, hzero, zpow_natCast]
    simp only [Int.toNat_natCast, Nat.shiftLeft_eq, pow_zero, mul_one, Nat.mod_one, if_pos,
      Nat.div_one, Option.some.injEq]
    rw [eq_comm]
    exact_mod_cast Iff.rfl
  · obtain ⟨z, hz⟩ := Int.eq_ofNat_of_zero_le (Int.neg_nonneg.mpr hexponent)
    obtain rfl : exponent = -z := by omega
    have hzero : (-(z : ℤ)).toNat = 0 := by omega
    rw [natural?, zpow_neg, zpow_natCast, Int.neg_neg, hzero, ← div_eq_mul_inv,
      eq_div_iff (by positivity)]
    simp only [Int.toNat_natCast, Nat.shiftLeft_eq, one_mul, pow_zero, mul_one]
    constructor
    · intro h
      split at h
      next hdivides =>
        cases h
        exact_mod_cast Nat.div_mul_cancel (Nat.dvd_of_mod_eq_zero hdivides)
      next => cases h
    · intro h
      have hmantissa : k * 2 ^ z = mantissa := by
        exact_mod_cast h
      rw [← hmantissa, if_pos (Nat.mul_mod_left k _), Nat.mul_div_cancel _ (by positivity)]

end Layout

end Number

end Calculator
