import Calculator.Expression
import Calculator.Proofs.Text.Words
import Calculator.Proofs.Token.Cutting

namespace Calculator

open Text (isBlank isBlankText collapse trim)

/-- A character as it is read, if only the tokens are asked for. -/
def plainChar (c : Char) : Char := if isBlank c then ' ' else standardChar c

theorem standardChar_space : standardChar ' ' = ' ' := rfl

theorem plainChar_of_isBlank {c : Char} (h : isBlank c = true) : plainChar c = ' ' := if_pos h

theorem plainChar_of_solid {c : Char} (h : isBlank c = false) : plainChar c = standardChar c := by
  rw [plainChar, h]
  rfl

namespace Token

theorem ofChars?_append_space (u v : List Char) :
    ofChars? (u ++ ' ' :: v) = (ofChars? u).bind fun left => (ofChars? v).map (left ++ ·) := by
  have hcut : CutsNoNumeral u (' ' :: v) := .inr rfl
  rw [ofChars?_append hcut, ofChars?_space_cons]

theorem ofChars?_append_space_space (u v : List Char) :
    ofChars? (u ++ ' ' :: ' ' :: v) = ofChars? (u ++ ' ' :: v) := by
  rw [ofChars?_append_space, ofChars?_space_cons, ofChars?_append_space]

/-- Collapsing the blanks of a text keeps its tokens, whatever numeral has begun before it. -/
theorem ofChars?_append_collapse (before text : List Char) :
    ofChars? (before ++ (collapse text).map standardChar) =
      ofChars? (before ++ text.map plainChar) := by
  induction text generalizing before with
  | nil => rfl
  | cons c rest ih =>
      cases hc : isBlank c with
      | false =>
          have hnext := ih (before ++ [standardChar c])
          simpa [collapse, hc, plainChar_of_solid hc] using hnext
      | true =>
          have hspaced := ih (before ++ [' '])
          cases rest with
          | nil => simp [collapse, hc, plainChar_of_isBlank hc, standardChar_space]
          | cons d more =>
              cases hd : isBlank d with
              | false =>
                  simpa [collapse, hc, hd, plainChar_of_isBlank hc, standardChar_space]
                    using hspaced
              | true =>
                  have hsame := ih before
                  rw [List.map_cons, plainChar_of_isBlank hd] at hsame
                  rw [List.map_cons, List.map_cons, plainChar_of_isBlank hc,
                    plainChar_of_isBlank hd, ofChars?_append_space_space, ← hsame]
                  simp [collapse, hc, hd]

theorem ofChars?_blanks_append {blanks : List Char} (h : isBlankText blanks = true)
    (text : List Char) : ofChars? (blanks.map plainChar ++ text) = ofChars? text := by
  induction blanks with
  | nil => rfl
  | cons c rest ih =>
      rw [isBlankText, List.all_cons, Bool.and_eq_true] at h
      rw [List.map_cons, plainChar_of_isBlank h.1, List.cons_append, ofChars?_space_cons, ih h.2]

theorem ofChars?_append_blanks {blanks : List Char} (h : isBlankText blanks = true)
    (text : List Char) : ofChars? (text ++ blanks.map plainChar) = ofChars? text := by
  cases blanks with
  | nil => rw [List.map_nil, List.append_nil]
  | cons c rest =>
      rw [isBlankText, List.all_cons, Bool.and_eq_true] at h
      have hrest := ofChars?_blanks_append h.2 []
      rw [List.append_nil] at hrest
      rw [List.map_cons, plainChar_of_isBlank h.1, ofChars?_append_space, hrest, ofChars?_nil]
      cases ofChars? text with
      | none => rfl
      | some tokens => exact congrArg some (List.append_nil tokens)

theorem ofChars?_normalChars (text : List Char) :
    ofChars? (normalChars text) = ofChars? (text.map plainChar) := by
  obtain ⟨front, back, hfront, hback, htext⟩ := Text.exists_blanks_trim_blanks text
  have hcollapsed := ofChars?_append_collapse [] (trim text)
  rw [List.nil_append, List.nil_append] at hcollapsed
  rw [normalChars, hcollapsed, htext, List.map_append, List.map_append,
    ofChars?_blanks_append hfront, ofChars?_append_blanks hback, ← htext]

end Token

theorem writtenTokens_eq_ok_iff {text : String} {written : List Token} :
    writtenTokens text = .ok written ↔
      Token.ofChars? (text.toList.map plainChar) = some written := by
  rw [writtenTokens, ← Token.ofChars?_eq_some_iff, Token.ofChars?_normalChars]

end Calculator
