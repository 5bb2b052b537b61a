import Calculator.Proofs.Token.Merging
import Calculator.Proofs.Token.Recognition

namespace Calculator

theorem Digit.map_toChar_ofChar {text : List Char} (h : ∀ c ∈ text, c.isDigit = true) :
    (text.map ofChar).map toChar = text := by
  rw [List.map_map]
  exact (List.map_congr_left fun c hc => toChar_ofChar (h c hc)).trans (List.map_id text)

namespace Numeral

theorem chars_ofDigits {whole : List Digit} (h : whole ≠ []) (fraction : List Digit) :
    (ofDigits whole fraction).chars = whole.map Digit.toChar ++
      if fraction = [] then [] else '.' :: fraction.map Digit.toChar := by
  match whole, h with
  | d :: rest, _ => rfl

/-- A numeral keeps all characters that it was read from. -/
theorem chars_of_ofChars? {text : List Char} {n : Numeral} (h : ofChars? text = some n) :
    n.chars = text := by
  have hsplit : text.takeWhile Char.isDigit ++ text.dropWhile Char.isDigit = text :=
    List.takeWhile_append_dropWhile
  have hwhole : ((text.takeWhile Char.isDigit).map Digit.ofChar).map Digit.toChar =
      text.takeWhile Char.isDigit :=
    Digit.map_toChar_ofChar (List.all_eq_true.mp List.all_takeWhile)
  simp only [ofChars?] at h
  split at h
  · cases h
  next hne =>
    have hdigits : (text.takeWhile Char.isDigit).map Digit.ofChar ≠ [] :=
      fun hnil => hne (List.map_eq_nil_iff.mp hnil)
    split at h
    next hend =>
      cases h
      rw [chars_ofDigits hdigits, if_pos rfl, hwhole, ← hend, hsplit]
    next c rest hpoint =>
      split at h
      next hplaces =>
        cases h
        have hfraction : ((c :: rest).map Digit.ofChar).map Digit.toChar = c :: rest :=
          Digit.map_toChar_ofChar (List.all_eq_true.mp hplaces)
        have hsome : (c :: rest).map Digit.ofChar ≠ [] := List.cons_ne_nil _ _
        rw [chars_ofDigits hdigits, if_neg hsome, hwhole, hfraction, ← hpoint, hsplit]
      next => cases h
    next => cases h

end Numeral

namespace Token

theorem text_ofText (text : String) : (ofText text).text = text := by
  rw [ofText.eq_def]
  split
  iterate 6 rfl
  cases hread : Numeral.ofChars? text.toList with
  | none => rfl
  | some n =>
      change String.ofList n.chars = text
      rw [Numeral.chars_of_ofChars? hread, String.ofList_toList]

theorem map_text_ofText (texts : List String) : (texts.map ofText).map text = texts := by
  rw [List.map_map]
  exact (List.map_congr_left fun t _ => text_ofText t).trans (List.map_id texts)

theorem ofText_eq_sign_iff {text : String} {s : Sign} : ofText text = .sign s ↔ text = s.text := by
  constructor
  · intro h
    exact (text_ofText text).symm.trans (congrArg Token.text h)
  · rintro rfl
    cases s <;> rfl

end Token

end Calculator
