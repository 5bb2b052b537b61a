import Calculator.Proofs.Expression.NormalForm
import Calculator.Proofs.Expression.Rendering
import Calculator.Proofs.Number.Figures
import Calculator.Proofs.Token.Recognition

namespace Calculator

namespace Number

/-- The number that a double stands for; an infinity and what is no number stand for zero here. -/
def Content.value : Content → ℚ
  | .nan | .infinite _ => 0
  | .finite negative mantissa exponent =>
    if negative then -(mantissa * 2 ^ exponent) else mantissa * 2 ^ exponent

def exactValue (a : Float) : ℚ := (content a).value

end Number

open Number
open Text (isBlank)

/-- The text is refused for a character that no expression has. -/
def IsForeignText (text : String) : Prop :=
  ∃ fault, evaluate text = .error (.lexical fault) ∧ fault.issue.code = .invalidCharacter

/-- A character that is kept as it is and ends no word. -/
def isKept (c : Char) : Bool := !isBlank c && !replacedChars.contains c

variable {text : String} {a : Float} {negative : Bool} {mantissa : ℕ} {exponent : ℤ} {d : Decimal}

theorem isForeignText_of_mem (h : ∀ c ∈ text.toList, isKept c = true)
    (hforeign : ∃ c ∈ text.toList, c ∉ Token.alphabet) : IsForeignText text := by
  have hnormal : normalChars text.toList = text.toList := by
    refine (IsNormal.of_solid fun c hc => ?_).normalChars_eq_self
    simpa [isKept] using h c hc
  have hunknown : ¬ ∀ c ∈ text.toList, c ∈ Token.alphabet := by
    simpa using hforeign
  obtain ⟨front, c, rest, hsplit, hknown, hc⟩ := Token.exists_first_not hunknown
  obtain ⟨fault, -, hfault, hcode, -⟩ := (Token.FirstFault.unknown hsplit hknown hc).reported
  refine ⟨fault, ?_, hcode⟩
  rw [evaluate, parse_of_lexical]
  · rfl
  · rw [tokens, writtenTokens, hnormal, hfault]
    rfl

theorem isKept_of_isFigure {c : Char} (h : isFigure c = true) : isKept c = true := by
  simp only [isFigure, Bool.or_eq_true, beq_iff_eq] at h
  obtain (((hdigit | rfl) | rfl) | rfl) | rfl := h
  · rw [← Digit.toChar_ofChar hdigit]
    generalize Digit.ofChar c = digit
    revert digit
    decide
  · decide
  · decide
  · decide
  · decide

/-- A numeral behind a sign or without one is read as its value with that sign. -/
theorem evaluate_signed_numeral (negative : Bool) (n : Numeral) :
    evaluate (signText negative ++ String.ofList n.chars) =
      .ok (if negative then -n.value else n.value) := by
  have hread (f : Formula) (h : f.briefTokens.flatMap (fun t => t.text.toList) =
      (signText negative ++ String.ofList n.chars).toList) :
      evaluate (signText negative ++ String.ofList n.chars) = .ok f.value := by
    have hspelled := Token.spells_flatMap f.briefTokens
    rw [h] at hspelled
    exact Formula.evaluate_of_parse (Formula.parse_of_spells_tokens (.inr hspelled))
  have hnumeral : [Token.number n].flatMap (fun t => t.text.toList) = n.chars := by
    rw [List.flatMap_singleton, Token.toList_text_number]
  cases negative with
  | false =>
      refine hread (.number n) ?_
      rw [String.toList_append, String.toList_ofList]
      exact hnumeral
  | true =>
      refine hread (.unary .minus (.number n)) ?_
      rw [String.toList_append, String.toList_ofList]
      exact congrArg ('-' :: ·) hnumeral

/-- A numeral with the value of a double's magnitude is read as the double. -/
theorem evaluate_of_place {n : Numeral} (h : content a = .finite negative mantissa exponent)
    (hplace : n.decimal.place = magnitude a) :
    evaluate (signText negative ++ String.ofList n.chars) = .ok a := by
  have hread := Decimal.toFloat_of_place h hplace
  rw [evaluate_signed_numeral, Numeral.value, hread]

theorem beq_self_of_isFinite (h : a.isFinite = true) : (a == a) = true := by
  obtain ⟨x⟩ := a
  change x.unpack.isFinite = true at h
  change x.unpack.beq x.unpack = true
  generalize x.unpack = u at h ⊢
  cases u with
  | notANumber => cases h
  | infinity s => cases h
  | zero s => rfl
  | finite s m e hm =>
      cases s <;> simp [Float.Model.UnpackedFloat.beq, Float.Model.UnpackedFloat.compare]

section Finite

variable (h : content a = .finite negative mantissa exponent)

include h

theorem format_eq_of_content (words : Words) :
    format words a =
      signText negative ++
        String.ofList (standard.write (shortest (magnitude a) mantissa exponent)) := by
  simp only [format, h]

/-- What is written without an exponent is read as the value. -/
theorem evaluate_format (words : Words)
    (hpositional : IsPositional (shortest (magnitude a) mantissa exponent)) :
    evaluate (format words a) = .ok a := by
  obtain ⟨n, hchars, hvalue⟩ := exists_numeral_write hpositional
  have hplace : n.decimal.place = magnitude a :=
    (Decimal.place_congr hvalue).trans (place_shortest (isPlaceOf_content h).1)
  rw [format_eq_of_content h, ← hchars]
  exact evaluate_of_place h hplace

/-- What is written with an exponent is refused. -/
theorem isForeignText_format (words : Words)
    (hpositional : ¬ IsPositional (shortest (magnitude a) mantissa exponent)) :
    IsForeignText (format words a) := by
  have hletter := letter_mem_write hpositional
  have hwritten := isFigures_write standard (shortest (magnitude a) mantissa exponent)
  rw [format_eq_of_content h]
  refine isForeignText_of_mem (fun c hc => ?_) ⟨'e', ?_, by decide⟩
  · rw [String.toList_append, String.toList_ofList] at hc
    exact isKept_of_isFigure (isFigures_append.mpr ⟨isFigures_signText negative, hwritten⟩ c hc)
  · rw [String.toList_append, String.toList_ofList]
    exact List.mem_append_right _ hletter

theorem abs_exactValue : |exactValue a| = mantissa * 2 ^ exponent := by
  have hsize : (0 : ℚ) ≤ mantissa * 2 ^ exponent := by positivity
  rw [exactValue, h, Content.value]
  split
  · rw [abs_neg, abs_of_nonneg hsize]
  · exact abs_of_nonneg hsize

theorem isFinite_of_content : a.isFinite = true := by
  rw [← isFinite_content, h]
  rfl

/-- A whole number is written with all its digits and read as the value, but for the sign of zero.
-/
theorem evaluate_brief_of_natural? {k : ℕ} (hk : natural? mantissa exponent = some k) :
    ∃ b, evaluate (brief a) = .ok b ∧ (b == a) = true := by
  obtain ⟨n, hchars, hvalue⟩ := exists_numeral_digitText k
  have hplace : n.decimal.place = magnitude a :=
    Decimal.place_of_isPlaceOf (isPlaceOf_content h).1 (hvalue.trans (natural?_eq_some_iff.mp hk))
  have hbrief : brief a = signText (negative && k != 0) ++ String.ofList n.chars := by
    simp only [brief, h, hk, hchars]
  rcases Decidable.em (k = 0) with rfl | hpositive
  · -- Both zeros are written without a sign.
    have hzero : n.value = zero := by
      have hsame : n.decimal.place = (Decimal.mk 0 0).place := by
        refine Decimal.place_congr (hvalue.trans ?_)
        simp [Decimal.value]
      exact congrArg (fun place => Float.ofBits (UInt64.ofNat place)) hsame
    have hread := Decimal.toFloat_of_place h hplace
    change (if negative then -n.value else n.value) = a at hread
    refine ⟨n.value, ?_, ?_⟩
    · rw [hbrief, bne_self_eq_false, Bool.and_false, evaluate_signed_numeral]
      rfl
    · rw [← hread, hzero]
      cases negative <;> rfl
  · have hsign : (negative && k != 0) = negative := by simp [hpositive]
    rw [hbrief, hsign]
    exact ⟨a, evaluate_of_place h hplace, beq_self_of_isFinite (isFinite_of_content h)⟩

theorem brief_eq_plain (hnone : natural? mantissa exponent = none) : brief a = plain a := by
  simp only [brief, h, hnone]

theorem exists_natural? {z : ℤ} (hz : exactValue a = z) :
    ∃ k, natural? mantissa exponent = some k := by
  refine ⟨z.natAbs, natural?_eq_some_iff.mpr ?_⟩
  rw [← abs_exactValue h, hz, Nat.cast_natAbs, Int.cast_abs]

end Finite

theorem brief_eq_plain_of_not_finite (h : a.isFinite = false) : brief a = plain a := by
  rw [brief]
  rcases content_of_not_finite h with hcontent | ⟨negative, hcontent⟩
  · rw [hcontent]
  · rw [hcontent]

variable {words : Words}

theorem isForeignText_word (h : words ∈ [plainWords, displayWords]) :
    ∀ word ∈ [words.infinity, words.negativeInfinity, words.nan], IsForeignText word := by
  have hletters : ∀ words ∈ [plainWords, displayWords],
      ([words.infinity, words.negativeInfinity, words.nan].all fun word =>
        word.toList.all isKept && word.toList.any fun c => !Token.alphabet.contains c) = true :=
    List.all_eq_true.mp (by decide)
  intro word hword
  have hword' := List.all_eq_true.mp (hletters words h) word hword
  obtain ⟨hkept, hforeign⟩ := (Bool.and_eq_true _ _).mp hword'
  refine isForeignText_of_mem (List.all_eq_true.mp hkept) ?_
  simpa using hforeign

/-- A value is read back, or its text is refused. -/
theorem evaluate_format_or_isForeignText (h : words ∈ [plainWords, displayWords]) (a : Float) :
    evaluate (format words a) = .ok a ∨ IsForeignText (format words a) := by
  cases hfinite : a.isFinite with
  | false => exact .inr (isForeignText_word h _ (format_mem_words hfinite words))
  | true =>
      obtain ⟨negative, mantissa, exponent, hcontent⟩ := exists_content hfinite
      rcases Classical.em (IsPositional (shortest (magnitude a) mantissa exponent)) with hp | hp
      · exact .inl (evaluate_format hcontent words hp)
      · exact .inr (isForeignText_format hcontent words hp)

theorem evaluate_display_of_range (hfinite : a.isFinite = true)
    (hrange : exactValue a = 0 ∨ 1 / 10 ^ 4 ≤ |exactValue a| ∧ |exactValue a| < 10 ^ 16) :
    evaluate (display a) = .ok a := by
  obtain ⟨negative, mantissa, exponent, hcontent⟩ := exists_content hfinite
  refine evaluate_format hcontent displayWords ?_
  refine isPositional_shortest (isPlaceOf_content hcontent).1 ?_
  rw [← abs_eq_zero, abs_exactValue hcontent] at hrange
  refine hrange.imp_left fun hzero => ?_
  simpa [zpow_ne_zero] using hzero

theorem evaluate_brief_of_whole (hfinite : a.isFinite = true) (hwhole : ∃ z : ℤ, exactValue a = z) :
    ∃ b, evaluate (brief a) = .ok b ∧ (b == a) = true := by
  obtain ⟨negative, mantissa, exponent, hcontent⟩ := exists_content hfinite
  obtain ⟨z, hz⟩ := hwhole
  obtain ⟨k, hk⟩ := exists_natural? hcontent hz
  exact evaluate_brief_of_natural? hcontent hk

theorem evaluate_brief_or_isForeignText (a : Float) :
    (∃ b, evaluate (brief a) = .ok b ∧ (b == a) = true) ∨ IsForeignText (brief a) := by
  have hplain := evaluate_format_or_isForeignText List.mem_cons_self a
  cases hfinite : a.isFinite with
  | false =>
      rw [brief_eq_plain_of_not_finite hfinite]
      exact .inr (isForeignText_word List.mem_cons_self _ (format_mem_words hfinite plainWords))
  | true =>
      obtain ⟨negative, mantissa, exponent, hcontent⟩ := exists_content hfinite
      cases hnatural : natural? mantissa exponent with
      | some k => exact .inl (evaluate_brief_of_natural? hcontent hnatural)
      | none =>
          rw [brief_eq_plain hcontent hnatural]
          exact hplain.imp_left fun hread => ⟨a, hread, beq_self_of_isFinite hfinite⟩

/-- No value that is printed is taken for another one when it is entered again. A result is read
as itself, with the sign of zero, or refused for a letter, and it is read if it is zero or in the
range that is written without an exponent; a value in an account is read as an equal one or
refused likewise, and every whole number is read. -/
theorem printed_values_read_back (a : Float) :
    (evaluate (display a) = .ok a ∨ IsForeignText (display a)) ∧
      (a.isFinite = true →
        exactValue a = 0 ∨ 1 / 10 ^ 4 ≤ |exactValue a| ∧ |exactValue a| < 10 ^ 16 →
        evaluate (display a) = .ok a) ∧
      ((∃ b, evaluate (brief a) = .ok b ∧ (b == a) = true) ∨ IsForeignText (brief a)) ∧
      (a.isFinite = true → (∃ z : ℤ, exactValue a = z) →
        ∃ b, evaluate (brief a) = .ok b ∧ (b == a) = true) :=
  ⟨evaluate_format_or_isForeignText (List.mem_cons_of_mem _ List.mem_cons_self) a,
    evaluate_display_of_range, evaluate_brief_or_isForeignText a, evaluate_brief_of_whole⟩

end Calculator
