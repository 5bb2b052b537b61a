import Calculator.Number.Layout
import Calculator.Proofs.Number.Negation
import Calculator.Proofs.Text.Quotation

namespace Calculator.Number

open Text (IsPrintableText isPrintable)
open Float.Model Float.Model.UnpackedFloat

section Content

variable (s : Float.Model.UnpackedFloat.Sign) (e : BitVec 11) (m : BitVec 52)

theorem toNat_packComponents :
    (packComponents .binary64 s e m).toNat =
      s.toBitVec.toNat * 2 ^ 63 + e.toNat * 2 ^ 52 + m.toNat := by
  change (s.toBitVec ++ e ++ m : BitVec (1 + 11 + 52)).toNat = _
  rw [BitVec.toNat_append, BitVec.toNat_append, ← Nat.shiftLeft_add_eq_or_of_lt m.isLt,
    ← Nat.shiftLeft_add_eq_or_of_lt e.isLt]
  simp only [Nat.shiftLeft_eq]
  omega

theorem magnitude_packComponents (hvalid : Format.binary64.Valid (packComponents .binary64 s e m)) :
    magnitude (.ofModel ⟨⟨packComponents .binary64 s e m⟩, hvalid⟩) =
      e.toNat * 2 ^ 52 + m.toNat := by
  have hs : s.toBitVec.toNat < 2 ^ 1 := s.toBitVec.isLt
  have he : e.toNat < 2 ^ 11 := e.isLt
  have hm : m.toNat < 2 ^ 52 := m.isLt
  change (packComponents .binary64 s e m).toNat % 2 ^ 63 = _
  rw [toNat_packComponents]
  omega

theorem isFinite_unpack :
    (UnpackedFloat.unpack .binary64 (packComponents .binary64 s e m)).isFinite =
      decide (e.toNat ≠ 2047) := by
  have hspecial : e = -1#11 ↔ e.toNat = 2047 := BitVec.toNat_inj.symm
  simp only [UnpackedFloat.unpack, unpackMantissa_packComponents, unpackExponent_packComponents,
    unpackSign_packComponents]
  split_ifs <;> simp_all [UnpackedFloat.isFinite]

end Content

def Content.isFinite : Content → Bool
  | .finite _ _ _ => true
  | .nan | .infinite _ => false

theorem isFinite_content (a : Float) : (content a).isFinite = a.isFinite := by
  obtain ⟨⟨⟨b⟩, hvalid⟩⟩ := a
  obtain ⟨s, e, m, rfl⟩ := exists_packComponents b
  have hbinade :
      magnitude (.ofModel ⟨⟨packComponents .binary64 s e m⟩, hvalid⟩) / binadeSize = e.toNat := by
    have hm : m.toNat < 2 ^ 52 := m.isLt
    rw [magnitude_packComponents]
    change (e.toNat * 2 ^ 52 + m.toNat) / 2 ^ 52 = _
    omega
  have hfinite : Float.isFinite (.ofModel ⟨⟨packComponents .binary64 s e m⟩, hvalid⟩) =
      decide (e.toNat ≠ 2047) := isFinite_unpack s e m
  rw [hfinite, content]
  simp only [hbinade]
  split_ifs <;> simp_all [Content.isFinite]

theorem exists_content {a : Float} (h : a.isFinite = true) :
    ∃ negative mantissa exponent, content a = .finite negative mantissa exponent := by
  rw [← isFinite_content] at h
  cases hcontent : content a with
  | finite negative mantissa exponent => exact ⟨negative, mantissa, exponent, rfl⟩
  | nan => simp [hcontent, Content.isFinite] at h
  | infinite negative => simp [hcontent, Content.isFinite] at h

theorem content_of_not_finite {a : Float} (h : a.isFinite = false) :
    content a = .nan ∨ ∃ negative, content a = .infinite negative := by
  rw [← isFinite_content] at h
  cases hcontent : content a with
  | nan => exact .inl rfl
  | infinite negative => exact .inr ⟨negative, rfl⟩
  | finite negative mantissa exponent => simp [hcontent, Content.isFinite] at h

/-- The characters of numbers in digits. -/
def isFigure (c : Char) : Bool := c.isDigit || c == '.' || c == 'e' || c == '+' || c == '-'

def IsFigures (text : List Char) : Prop := ∀ c ∈ text, isFigure c = true

section Figures

variable {digits : List Char} {c : Char}

theorem isFigures_append {u v : List Char} : IsFigures (u ++ v) ↔ IsFigures u ∧ IsFigures v :=
  List.forall_mem_append

theorem isFigures_cons {rest : List Char} :
    IsFigures (c :: rest) ↔ isFigure c = true ∧ IsFigures rest :=
  List.forall_mem_cons

theorem isFigures_zeros (count : Nat) : IsFigures (List.replicate count '0') := by
  intro c hc
  rw [List.eq_of_mem_replicate hc]
  rfl

theorem isFigures_digitText (n : Nat) : IsFigures (digitText n) := by
  intro c hc
  have hdigit := Nat.isDigit_of_mem_toDigits (by decide) (by decide) hc
  rw [isFigure, hdigit]
  rfl

theorem isFigures_withPoint (h : IsFigures digits) (count : Int) :
    IsFigures (withPoint digits count) := by
  have hzero : IsFigures ['0'] := isFigures_zeros 1
  have htake : IsFigures (digits.take count.toNat) := fun c hc => h c (List.mem_of_mem_take hc)
  have hdrop : IsFigures (digits.drop count.toNat) := fun c hc => h c (List.mem_of_mem_drop hc)
  refine isFigures_append.mpr ⟨?_, isFigures_cons.mpr ⟨rfl, ?_⟩⟩
  · split
    · exact hzero
    · exact isFigures_append.mpr ⟨htake, isFigures_zeros _⟩
  · split
    · exact hzero
    · exact isFigures_append.mpr ⟨isFigures_zeros _, hdrop⟩

theorem isFigures_withExponent (layout : Layout) (h : IsFigures digits) (exponent : Int) :
    IsFigures (withExponent layout digits exponent) := by
  refine isFigures_append.mpr ⟨?_, isFigures_cons.mpr ⟨rfl, isFigures_cons.mpr ⟨?_, ?_⟩⟩⟩
  · match digits, h with
    | [], h => exact h
    | [_], h => exact h
    | d :: _ :: _, h =>
        obtain ⟨hd, hrest⟩ := isFigures_cons.mp h
        exact isFigures_cons.mpr ⟨hd, isFigures_cons.mpr ⟨rfl, hrest⟩⟩
  · split <;> rfl
  · exact isFigures_append.mpr ⟨isFigures_zeros _, isFigures_digitText _⟩

theorem isFigures_write (layout : Layout) (d : Decimal) : IsFigures (layout.write d) := by
  simp only [Layout.write]
  split
  · exact isFigures_withPoint (isFigures_digitText _) _
  · exact isFigures_withExponent layout (isFigures_digitText _) _

theorem isFigures_signText (negative : Bool) : IsFigures (signText negative).toList := by
  cases negative with
  | false => exact nofun
  | true => exact isFigures_cons.mpr ⟨rfl, nofun⟩

theorem isPrintable_of_isFigure (h : isFigure c = true) : isPrintable c = true := by
  simp only [isFigure, Bool.or_eq_true, beq_iff_eq] at h
  obtain (((hdigit | rfl) | rfl) | rfl) | rfl := h
  · simp only [Char.isDigit, Bool.and_eq_true, decide_eq_true_eq] at hdigit
    have hlow : 48 ≤ c.toNat := hdigit.1
    have hhigh : c.toNat ≤ 57 := hdigit.2
    rw [isPrintable, if_pos (by omega)]
    exact decide_eq_true (by omega)
  · decide
  · decide
  · decide
  · decide

end Figures

variable {a : Float}

theorem exists_of_isFinite (h : a.isFinite = true) :
    ∃ figures, IsFigures figures ∧ ∀ words, format words a = String.ofList figures := by
  obtain ⟨negative, mantissa, exponent, hcontent⟩ := exists_content h
  have hwritten := isFigures_write standard (shortest (magnitude a) mantissa exponent)
  refine ⟨_, isFigures_append.mpr ⟨isFigures_signText negative, hwritten⟩, fun words => ?_⟩
  simp only [format, hcontent]
  simp

theorem display_eq_plain (h : a.isFinite = true) : display a = plain a := by
  obtain ⟨figures, -, hformat⟩ := exists_of_isFinite h
  exact (hformat displayWords).trans (hformat plainWords).symm

theorem format_mem_words (h : a.isFinite = false) (words : Words) :
    format words a ∈ [words.infinity, words.negativeInfinity, words.nan] := by
  rw [format]
  rcases content_of_not_finite h with hcontent | ⟨negative, hcontent⟩
  · simp [hcontent]
  · cases negative <;> simp [hcontent]

theorem display_mem_words (h : a.isFinite = false) :
    display a ∈ ["Infinity", "-Infinity", "NaN"] :=
  format_mem_words h displayWords

theorem display_mem_words_iff :
    display a ∈ ["Infinity", "-Infinity", "NaN"] ↔ a.isFinite = false := by
  refine ⟨fun hword => ?_, display_mem_words⟩
  rw [← Bool.not_eq_true]
  intro hfinite
  obtain ⟨figures, hfigures, hformat⟩ := exists_of_isFinite hfinite
  rw [display, hformat displayWords] at hword
  have hletter : 'n' ∈ figures ∨ 'N' ∈ figures := by
    simp only [List.mem_cons, List.not_mem_nil, or_false, ← String.toList_inj,
      String.toList_ofList] at hword
    obtain rfl | rfl | rfl := hword <;> decide
  rcases hletter with hletter | hletter <;> exact absurd (hfigures _ hletter) (by decide)

theorem isPrintableText_display (a : Float) : IsPrintableText (display a).toList := by
  cases hfinite : a.isFinite with
  | true =>
      obtain ⟨figures, hfigures, hformat⟩ := exists_of_isFinite hfinite
      rw [display, hformat displayWords, String.toList_ofList]
      exact fun c hc => isPrintable_of_isFigure (hfigures c hc)
  | false =>
      have hwords : ∀ word ∈ ["Infinity", "-Infinity", "NaN"], IsPrintableText word.toList := by
        decide
      exact hwords _ (display_mem_words hfinite)

end Calculator.Number
