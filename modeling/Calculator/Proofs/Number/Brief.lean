import Calculator.Proofs.Number.Division
import Calculator.Proofs.Number.Figures

namespace Calculator.Number

open Float.Model Float.Model.UnpackedFloat
open Nat (ofDigitChars)
open Token (isNumeralChar isNumeralChar_of_mem_chars)

/-- One double, or two zeros. -/
def Alike (a b : Float) : Prop := a = b ∨ (a == zero) = true ∧ (b == zero) = true

/-- The characters of numbers in digits and of the words for other values. -/
def isBriefChar (c : Char) : Bool := isFigure c || ['i', 'n', 'f', 'a'].contains c

section Exponent

variable {x y : Decimal} {digits digits' : List Char} {exponent exponent' : ℤ}

theorem digitText_inj {m n : ℕ} (h : digitText m = digitText n) : m = n := by
  calc
    m = ofDigitChars 10 (digitText m) 0 := Nat.ofDigitChars_ten_toDigits.symm
    _ = ofDigitChars 10 (digitText n) 0 := by rw [h]
    _ = n := Nat.ofDigitChars_ten_toDigits

theorem isNumeralChar_of_isDigit {c : Char} (h : c.isDigit = true) : isNumeralChar c = true :=
  Bool.or_eq_true_iff.mpr (.inl h)

theorem letter_notMem (h : ∀ c ∈ digits, isNumeralChar c = true) : 'e' ∉ digits :=
  fun hletter => absurd (h 'e' hletter) (by decide)

/-- The digits are found in front of the letter, and the exponent behind it. -/
theorem exists_withExponent (layout : Layout) (h : ∀ c ∈ digits, c.isDigit = true) (exponent : ℤ) :
    ∃ significand zeros, withExponent layout digits exponent =
        significand ++ 'e' :: (if exponent < 0 then '-' else '+') ::
          (List.replicate zeros '0' ++ digitText exponent.natAbs) ∧
      significand.filter Char.isDigit = digits ∧ ∀ c ∈ significand, isNumeralChar c = true := by
  have hfilter : digits.filter Char.isDigit = digits := List.filter_eq_self.mpr h
  have hnumeral : ∀ c ∈ digits, isNumeralChar c = true :=
    fun c hc => isNumeralChar_of_isDigit (h c hc)
  refine ⟨_, _, rfl, ?_⟩
  match digits with
  | [] => exact ⟨rfl, nofun⟩
  | [d] => exact ⟨hfilter, hnumeral⟩
  | d :: c :: rest =>
      have hpoint : Char.isDigit '.' = false := rfl
      constructor
      · rwa [List.filter_cons_of_pos (h d List.mem_cons_self),
          List.filter_cons_of_neg (by simp [hpoint]),
          ← List.filter_cons_of_pos (h d List.mem_cons_self)]
      · rw [List.forall_mem_cons] at hnumeral ⊢
        exact ⟨hnumeral.1, List.forall_mem_cons.mpr ⟨rfl, hnumeral.2⟩⟩

theorem withExponent_inj {layout : Layout} (hdigits : ∀ c ∈ digits, c.isDigit = true)
    (hdigits' : ∀ c ∈ digits', c.isDigit = true)
    (h : withExponent layout digits exponent = withExponent layout digits' exponent') :
    digits = digits' ∧ exponent = exponent' := by
  obtain ⟨significand, zeros, htext, hfilter, hnumeral⟩ :=
    exists_withExponent layout hdigits exponent
  obtain ⟨significand', zeros', htext', hfilter', -⟩ :=
    exists_withExponent layout hdigits' exponent'
  have hsize : 'e' ∉ (if exponent < 0 then '-' else '+') ::
      (List.replicate zeros '0' ++ digitText exponent.natAbs) := by
    refine List.not_mem_cons_of_ne_of_not_mem ?_ (letter_notMem ?_)
    · split <;> decide
    · intro c hc
      refine isNumeralChar_of_isDigit ?_
      rcases List.mem_append.mp hc with hc | hc
      · exact isDigit_of_mem_zeros zeros c hc
      · exact isDigit_of_mem_digitText c hc
  rw [htext, htext', List.append_cons_inj_of_notMem (letter_notMem hnumeral) hsize] at h
  obtain ⟨hsignificand, -, hbehind⟩ := h
  obtain ⟨hsign, hexponent⟩ := List.cons.inj hbehind
  constructor
  · rw [← hfilter, hsignificand, hfilter']
  · have hvalue := congrArg (ofDigitChars 10 · 0) hexponent
    simp only [ofDigitChars_zeros_append, digitText, Nat.ofDigitChars_ten_toDigits] at hvalue
    split at hsign <;> split at hsign
    · omega
    · exact absurd hsign (by decide)
    · exact absurd hsign (by decide)
    · omega

end Exponent

/-- That a number is written as a numeral, or with an exponent. -/
inductive Writes : List Char → ℚ → Prop where
  | numeral (n : Numeral) : Writes n.chars n.decimal.value
  | withExponent {x : Decimal} (h : ¬ IsPositional x) : Writes (standard.write x) x.value

section Writing

variable {chars : List Char} {x y : Decimal} {v w : ℚ}

theorem writes_write (x : Decimal) : Writes (standard.write x) x.value := by
  rcases Classical.em (IsPositional x) with h | h
  · obtain ⟨n, hchars, hvalue⟩ := exists_numeral_write h
    rw [← hchars, ← hvalue]
    exact .numeral n
  · exact .withExponent h

theorem writes_digitText (n : ℕ) : Writes (digitText n) n := by
  obtain ⟨numeral, hchars, hvalue⟩ := exists_numeral_digitText n
  rw [← hchars, ← hvalue]
  exact .numeral numeral

theorem write_eq_withExponent (h : ¬ IsPositional x) :
    standard.write x = withExponent standard (digitText x.digits)
      (x.exponent + (digitText x.digits).length - 1) := by
  have hexponent : ¬ (standard.leastPositional ≤ x.exponent + (digitText x.digits).length - 1 ∧
      x.exponent + (digitText x.digits).length - 1 ≤ standard.greatestPositional) := h
  rw [Layout.write, if_neg hexponent]

theorem write_inj (hx : ¬ IsPositional x) (hy : ¬ IsPositional y)
    (h : standard.write x = standard.write y) : x = y := by
  rw [write_eq_withExponent hx, write_eq_withExponent hy] at h
  obtain ⟨hdigits, hexponent⟩ :=
    withExponent_inj isDigit_of_mem_digitText isDigit_of_mem_digitText h
  obtain ⟨m, e⟩ := x
  obtain ⟨n, f⟩ := y
  obtain rfl : m = n := digitText_inj hdigits
  simpa using hexponent

theorem letter_notMem_chars (n : Numeral) : 'e' ∉ n.chars :=
  letter_notMem fun _ hc => isNumeralChar_of_mem_chars hc

theorem Writes.value_eq (hv : Writes chars v) (hw : Writes chars w) : v = w := by
  generalize hchars : chars = other at hw
  cases hv with
  | numeral n =>
      cases hw with
      | numeral m =>
          obtain rfl : n = m := by
            have hread := congrArg Numeral.ofChars? hchars
            rwa [Numeral.ofChars?_chars, Numeral.ofChars?_chars, Option.some.injEq] at hread
          rfl
      | withExponent h => exact absurd (hchars ▸ letter_mem_write h) (letter_notMem_chars n)
  | withExponent hx =>
      cases hw with
      | numeral m => exact absurd (hchars ▸ letter_mem_write hx) (letter_notMem_chars m)
      | withExponent hy => rw [write_inj hx hy hchars]

theorem Writes.head?_ne (h : Writes chars v) : chars.head? ≠ some '-' := by
  cases h with
  | numeral n =>
      intro hhead
      cases isNumeralChar_of_mem_chars (List.mem_of_head? hhead)
  | @withExponent x h =>
      obtain ⟨significand, zeros, htext, -, hnumeral⟩ := exists_withExponent standard
        (isDigit_of_mem_digitText (n := x.digits)) (x.exponent + (digitText x.digits).length - 1)
      rw [write_eq_withExponent h, htext]
      cases significand with
      | nil => simp
      | cons c rest =>
          intro hhead
          obtain rfl := Option.some.inj hhead
          cases hnumeral '-' List.mem_cons_self

theorem Writes.ne_nil (h : Writes chars v) : chars ≠ [] := by
  cases h with
  | numeral n => simp [Numeral.chars, Numeral.whole]
  | withExponent h => exact List.ne_nil_of_mem (letter_mem_write h)

theorem Writes.isFigures (h : Writes chars v) : IsFigures chars := by
  cases h with
  | numeral n =>
      intro c hc
      rcases Bool.or_eq_true_iff.mp (isNumeralChar_of_mem_chars hc) with hdigit | hpoint
      · simp [isFigure, hdigit]
      · simp [isFigure, hpoint]
  | withExponent _ => exact isFigures_write _ _

end Writing

section Doubles

variable {a b : Float} {place mantissa : ℕ} {exponent : ℤ}

theorem eq_of_magnitude (h : magnitude a = magnitude b) (hsign : isNegative a = isNegative b) :
    a = b := by
  have hread := ofBits_magnitude a
  rw [h, hsign, ofBits_magnitude b] at hread
  split at hread
  · rw [← neg_neg a, ← hread, neg_neg]
  · exact hread.symm

theorem exists_pack_zero (h : (a == zero) = true) :
    ∃ s, a = .ofModel (Float.Model.pack (.zero s)) := by
  obtain ⟨s, hs⟩ := (beq_zero_iff a).mp h
  exact ⟨s, by rw [← hs, pack_unpack]⟩

theorem beq_zero_iff_magnitude (a : Float) : (a == zero) = true ↔ magnitude a = 0 := by
  constructor
  · intro h
    obtain ⟨s, rfl⟩ := exists_pack_zero h
    cases s <;> rfl
  · intro h
    have hread := ofBits_magnitude a
    rw [h] at hread
    split at hread
    · rw [← neg_beq_zero, ← hread]
      rfl
    · rw [← hread]
      rfl

theorem eq_of_zeros (ha : (a == zero) = true) (hb : (b == zero) = true)
    (h : isNegative a = isNegative b) : a = b := by
  rw [beq_zero_iff_magnitude] at ha hb
  exact eq_of_magnitude (ha.trans hb.symm) h

theorem IsPlaceOf.eq_zero_iff (h : IsPlaceOf place mantissa exponent) :
    place = 0 ↔ mantissa = 0 := by
  obtain ⟨-, hleading, -, hplace, -⟩ := h
  rw [binadeSize_eq] at hleading hplace
  constructor
  · omega
  · rintro rfl
    have hleast : exponent = leastExponent := hleading.resolve_right (by decide)
    rw [hplace, hleast, Int.sub_self]
    rfl

/-- A finite double is written as its magnitude, with a sign unless it is zero. -/
theorem exists_brief (h : a.isFinite = true) : ∃ (chars : List Char) (x : Decimal),
    brief a = signText (isNegative a && magnitude a != 0) ++ String.ofList chars ∧
      Writes chars x.value ∧ x.place = magnitude a := by
  obtain ⟨negative, mantissa, exponent, hcontent⟩ := exists_content h
  obtain ⟨hplace, rfl⟩ := isPlaceOf_content hcontent
  cases hnatural : natural? mantissa exponent with
  | some k =>
      have hvalue := natural?_eq_some_iff.mp hnatural
      have hsame : (Decimal.mk k 0).value = k := by simp [Decimal.value]
      have hk : k = 0 ↔ magnitude a = 0 := by
        rw [hplace.eq_zero_iff, ← Nat.cast_eq_zero (R := ℚ), hvalue, mul_eq_zero, Nat.cast_eq_zero]
        exact or_iff_left (zpow_ne_zero _ two_ne_zero)
      have hzero : (k != 0) = (magnitude a != 0) := by
        rw [Bool.eq_iff_iff, bne_iff_ne, bne_iff_ne]
        exact hk.not
      refine ⟨digitText k, ⟨k, 0⟩, ?_, ?_, ?_⟩
      · simp only [brief, hcontent, hnatural, hzero]
      · rw [hsame]
        exact writes_digitText k
      · exact Decimal.place_of_isPlaceOf hplace (hsame.trans hvalue)
  | none =>
      have hzero : (magnitude a != 0) = true := by
        rw [bne_iff_ne, ne_eq, hplace.eq_zero_iff]
        rintro rfl
        have hnone : natural? 0 exponent = some 0 := natural?_eq_some_iff.mpr (by simp)
        rw [hnatural] at hnone
        cases hnone
      refine ⟨_, _, ?_, writes_write _, place_shortest hplace⟩
      rw [hzero, Bool.and_true]
      simp only [brief, hcontent, hnatural, plain, format]

theorem signText_append_inj {p q : Bool} {u v : List Char} (hu : u.head? ≠ some '-')
    (hv : v.head? ≠ some '-')
    (h : signText p ++ String.ofList u = signText q ++ String.ofList v) : p = q ∧ u = v := by
  have hchars := congrArg String.toList h
  simp only [String.toList_append, String.toList_ofList] at hchars
  cases p with
  | false =>
      cases q with
      | false => exact ⟨rfl, hchars⟩
      | true => exact absurd (congrArg List.head? hchars) hu
  | true =>
      cases q with
      | false => exact absurd (congrArg List.head? hchars.symm) hv
      | true => exact ⟨rfl, List.cons.inj hchars |>.2⟩

theorem alike_of_brief_of_isFinite (ha : a.isFinite = true) (hb : b.isFinite = true)
    (h : brief a = brief b) : Alike a b := by
  obtain ⟨chars, x, hbrief, hwrites, hplace⟩ := exists_brief ha
  obtain ⟨chars', y, hbrief', hwrites', hplace'⟩ := exists_brief hb
  rw [hbrief, hbrief'] at h
  obtain ⟨hsign, rfl⟩ := signText_append_inj hwrites.head?_ne hwrites'.head?_ne h
  have hmagnitude : magnitude a = magnitude b := by
    rw [← hplace, ← hplace', Decimal.place_congr (hwrites.value_eq hwrites')]
  rcases Nat.eq_zero_or_pos (magnitude a) with hzero | hpos
  · right
    rw [beq_zero_iff_magnitude, beq_zero_iff_magnitude]
    exact ⟨hzero, hmagnitude ▸ hzero⟩
  · have hshown : (magnitude a != 0) = true := bne_iff_ne.mpr hpos.ne'
    rw [← hmagnitude, hshown, Bool.and_true, Bool.and_true] at hsign
    exact .inl (eq_of_magnitude hmagnitude hsign)

theorem eq_of_content_infinite {negative : Bool} (ha : content a = .infinite negative)
    (hb : content b = .infinite negative) : a = b := by
  have hinfinite {c : Float} (h : content c = .infinite negative) :
      magnitude c = infinityPlace ∧ isNegative c = negative := by
    rw [content] at h
    split_ifs at h with hspecial hmantissa
    cases h
    refine ⟨?_, rfl⟩
    rw [binadeSize_eq] at hspecial hmantissa
    rw [infinityPlace_eq]
    omega
  refine eq_of_magnitude ?_ ?_
  · rw [(hinfinite ha).1, (hinfinite hb).1]
  · rw [(hinfinite ha).2, (hinfinite hb).2]

theorem eq_nan_of_content (h : content a = .nan) : a = nan := by
  obtain ⟨⟨⟨bits⟩, hvalid⟩⟩ := a
  obtain ⟨s, e, m, rfl⟩ := exists_packComponents bits
  have he : e.toNat < 2 ^ 11 := e.isLt
  have hm : m.toNat < 2 ^ 52 := m.isLt
  simp only [content, magnitude_packComponents, binadeSize_eq] at h
  split_ifs at h with hspecial hmantissa
  have hexponent : e = -1#11 := by
    rw [← BitVec.toNat_inj]
    change e.toNat = 2047
    omega
  have hnonzero : m ≠ 0#52 := by
    rintro rfl
    simp at hmantissa
  have hnone : UnpackedFloat.unpack .binary64 (packComponents .binary64 s e m) = .notANumber := by
    simp only [UnpackedFloat.unpack, unpackMantissa_packComponents, unpackExponent_packComponents]
    rw [if_pos hexponent, if_neg hnonzero]
  have hread := pack_unpack ⟨⟨packComponents .binary64 s e m⟩, hvalid⟩
  change Float.Model.pack (UnpackedFloat.unpack .binary64 (packComponents .binary64 s e m)) = _
    at hread
  rw [← hread, hnone]
  rfl

theorem isFigures_brief (h : a.isFinite = true) : IsFigures (brief a).toList := by
  obtain ⟨chars, x, hbrief, hwrites, -⟩ := exists_brief h
  rw [hbrief, String.toList_append, String.toList_ofList]
  exact isFigures_append.mpr ⟨isFigures_signText _, hwrites.isFigures⟩

theorem brief_of_content_nan (h : content a = .nan) : brief a = "nan" := by
  simp only [brief, h, plain, format]
  rfl

theorem brief_of_content_infinite {negative : Bool} (h : content a = .infinite negative) :
    brief a = if negative then "-inf" else "inf" := by
  simp only [brief, h, plain, format]
  cases negative <;> rfl

theorem brief_of_beq_zero (h : (a == zero) = true) : brief a = "0" := by
  obtain ⟨s, rfl⟩ := exists_pack_zero h
  cases s <;> decide

theorem brief_mem_words (h : a.isFinite = false) : brief a ∈ ["inf", "-inf", "nan"] := by
  rcases content_of_not_finite h with hcontent | ⟨negative, hcontent⟩
  · simp [brief_of_content_nan hcontent]
  · cases negative <;> simp [brief_of_content_infinite hcontent]

theorem brief_ne_of_isFinite (ha : a.isFinite = true) (hb : b.isFinite = false) :
    brief a ≠ brief b := by
  have hletter : ∀ word ∈ ["inf", "-inf", "nan"], 'n' ∈ word.toList := by decide
  intro h
  have hfigure := isFigures_brief ha 'n' (h ▸ hletter _ (brief_mem_words hb))
  exact absurd hfigure (by decide)

theorem eq_of_brief_of_not_finite (ha : a.isFinite = false) (hb : b.isFinite = false)
    (h : brief a = brief b) : a = b := by
  have hnan : ∀ p : Bool, (if p then "-inf" else "inf") ≠ "nan" := by decide
  have hinf : ∀ p q : Bool,
      (if p then "-inf" else "inf") = (if q then "-inf" else "inf") → p = q := by
    decide
  rcases content_of_not_finite ha with hnone | ⟨negative, hinfinite⟩
  · rcases content_of_not_finite hb with hnone' | ⟨negative', hinfinite'⟩
    · rw [eq_nan_of_content hnone, eq_nan_of_content hnone']
    · rw [brief_of_content_nan hnone, brief_of_content_infinite hinfinite'] at h
      exact absurd h.symm (hnan negative')
  · rcases content_of_not_finite hb with hnone' | ⟨negative', hinfinite'⟩
    · rw [brief_of_content_infinite hinfinite, brief_of_content_nan hnone'] at h
      exact absurd h (hnan negative)
    · rw [brief_of_content_infinite hinfinite, brief_of_content_infinite hinfinite'] at h
      obtain rfl := hinf _ _ h
      exact eq_of_content_infinite hinfinite hinfinite'

theorem brief_ne_nil (a : Float) : (brief a).toList ≠ [] := by
  cases h : a.isFinite with
  | true =>
      obtain ⟨chars, x, hbrief, hwrites, -⟩ := exists_brief h
      rw [hbrief, String.toList_append, String.toList_ofList]
      exact List.append_ne_nil_of_right_ne_nil _ hwrites.ne_nil
  | false =>
      have hwords : ∀ word ∈ ["inf", "-inf", "nan"], word.toList ≠ [] := by decide
      exact hwords _ (brief_mem_words h)

theorem isBriefChar_of_mem {c : Char} (hc : c ∈ (brief a).toList) : isBriefChar c = true := by
  cases h : a.isFinite with
  | true => exact Bool.or_eq_true_iff.mpr (.inl (isFigures_brief h c hc))
  | false =>
      have hwords : ∀ word ∈ ["inf", "-inf", "nan"], word.toList.all isBriefChar = true := by decide
      exact List.all_eq_true.mp (hwords _ (brief_mem_words h)) c hc

/-- Only the sign of zero is lost in an account. -/
theorem brief_eq_iff_alike (a b : Float) : brief a = brief b ↔ Alike a b := by
  constructor
  · intro h
    cases ha : a.isFinite with
    | true =>
        cases hb : b.isFinite with
        | true => exact alike_of_brief_of_isFinite ha hb h
        | false => exact absurd h (brief_ne_of_isFinite ha hb)
    | false =>
        cases hb : b.isFinite with
        | true => exact absurd h.symm (brief_ne_of_isFinite hb ha)
        | false => exact .inl (eq_of_brief_of_not_finite ha hb h)
  · rintro (rfl | ⟨ha, hb⟩)
    · rfl
    · rw [brief_of_beq_zero ha, brief_of_beq_zero hb]

end Doubles

end Calculator.Number
