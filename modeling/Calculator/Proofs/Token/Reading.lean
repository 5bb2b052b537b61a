import Calculator.Proofs.Rules.Acceptance
import Calculator.Proofs.Token.Spacing
import Calculator.Token.Spelling
import Mathlib.Data.List.TakeWhile

namespace Calculator

namespace Digit

theorem map_ofChar_toChar (digits : List Digit) : (digits.map toChar).map ofChar = digits := by
  have hinverse : ofChar ∘ toChar = id := funext ofChar_toChar
  rw [List.map_map, hinverse, List.map_id]

theorem isDigit_of_mem {digits : List Digit} {c : Char} (h : c ∈ digits.map toChar) :
    c.isDigit = true := by
  obtain ⟨d, -, rfl⟩ := List.mem_map.mp h
  exact isDigit_toChar d

end Digit

namespace Token

theorem takeWhile_dropWhile_digits (digits : List Digit) (rest : List Char)
    (h : rest.head?.any Char.isDigit = false) :
    (digits.map Digit.toChar ++ rest).takeWhile Char.isDigit = digits.map Digit.toChar ∧
      (digits.map Digit.toChar ++ rest).dropWhile Char.isDigit = rest := by
  have hdigits : ∀ c ∈ digits.map Digit.toChar, c.isDigit = true := fun c => Digit.isDigit_of_mem
  rw [List.takeWhile_append_of_pos hdigits, List.dropWhile_append_of_pos hdigits]
  cases rest with
  | nil => exact ⟨List.append_nil _, rfl⟩
  | cons c more =>
      rw [List.takeWhile_cons_of_neg (Bool.not_eq_true _ ▸ h),
        List.dropWhile_cons_of_neg (Bool.not_eq_true _ ▸ h)]
      exact ⟨List.append_nil _, rfl⟩

theorem ofRun_chars (position : Nat) (n : Numeral) : ofRun position n.chars = .ok (.number n) := by
  obtain ⟨first, rest, fraction⟩ := n
  cases fraction with
  | nil =>
      have hchars : (Numeral.mk first rest []).chars = (first :: rest).map Digit.toChar ++ [] := rfl
      obtain ⟨htake, hdrop⟩ := takeWhile_dropWhile_digits (first :: rest) [] rfl
      simp only [ofRun, hchars, htake, hdrop, Digit.map_ofChar_toChar]
      rfl
  | cons d more =>
      have hchars : (Numeral.mk first rest (d :: more)).chars =
          (first :: rest).map Digit.toChar ++ '.' :: ((d :: more).map Digit.toChar ++ []) := by
        rw [List.append_nil]
        rfl
      obtain ⟨htake, hdrop⟩ := takeWhile_dropWhile_digits (first :: rest)
        ('.' :: ((d :: more).map Digit.toChar ++ [])) rfl
      obtain ⟨hfraction, hend⟩ := takeWhile_dropWhile_digits (d :: more) [] rfl
      have hplaces : (d :: more).map Digit.toChar ≠ [] := List.cons_ne_nil _ _
      simp only [ofRun, hchars, htake, hdrop, hfraction, hend, hplaces, Digit.map_ofChar_toChar,
        ne_eq, not_true, and_false, if_false]
      rfl

theorem mem_chars {n : Numeral} {c : Char} (h : c ∈ n.chars) :
    c = '.' ∨ ∃ d : Digit, c = d.toChar := by
  have hdigit : ∀ digits : List Digit, c ∈ digits.map Digit.toChar → ∃ d : Digit, c = d.toChar := by
    intro digits hmem
    obtain ⟨d, -, rfl⟩ := List.mem_map.mp hmem
    exact ⟨d, rfl⟩
  rw [Numeral.chars] at h
  split at h
  · rw [List.append_nil] at h
    exact .inr (hdigit _ h)
  · rcases List.mem_append.mp h with hwhole | hfraction
    · exact .inr (hdigit _ hwhole)
    · rcases List.mem_cons.mp hfraction with hpoint | hplaces
      · exact .inl hpoint
      · exact .inr (hdigit _ hplaces)

theorem isNumeralChar_of_mem_chars {n : Numeral} {c : Char} (h : c ∈ n.chars) :
    isNumeralChar c = true := by
  rcases mem_chars h with rfl | ⟨d, rfl⟩
  · rfl
  · rw [isNumeralChar, Digit.isDigit_toChar]
    rfl

theorem plainChar_toChar (d : Digit) : plainChar d.toChar = d.toChar := by
  revert d
  decide

theorem plainChar_of_mem_chars {n : Numeral} {c : Char} (h : c ∈ n.chars) : plainChar c = c := by
  rcases mem_chars h with rfl | ⟨d, rfl⟩
  · decide
  · exact plainChar_toChar d

theorem ofChars?_chars (n : Numeral) : ofChars? n.chars = some [.number n] := by
  obtain ⟨c, rest, hchars⟩ : ∃ c rest, n.chars = c :: rest := ⟨_, _, rfl⟩
  have hnumeral : ∀ d ∈ n.chars, isNumeralChar d = true := fun d => isNumeralChar_of_mem_chars
  have hlegal : n.chars.all isLegal = true := by
    refine List.all_eq_true.mpr fun d hd => ?_
    rw [isLegal, hnumeral d hd]
    rfl
  have hrest : ∀ d ∈ rest, isNumeralChar d = true :=
    fun d hd => hnumeral d (hchars ▸ List.mem_cons_of_mem c hd)
  have hc : isNumeralChar c = true := hnumeral c (hchars ▸ List.mem_cons_self)
  have hrun : ofRun 0 (c :: rest) = .ok (.number n) := hchars ▸ ofRun_chars 0 n
  rw [ofChars?_eq_scan, if_pos hlegal, hchars, scan, if_pos hc,
    List.takeWhile_eq_self_iff.mpr hrest,
    List.dropWhile_eq_nil_iff.mpr hrest]
  simp only [hrun, scan]
  rfl

/-- A token of the notation that is no numeral is one character. -/
theorem exists_symbol {t : Token} (h : t.isNotation = true) (hn : t.isNumber = false) :
    ∃ c, t.text.toList = [c] ∧ symbol? c = some t := by
  match t, h, hn with
  | .sign .plus, _, _ => exact ⟨'+', rfl, rfl⟩
  | .sign .minus, _, _ => exact ⟨'-', rfl, rfl⟩
  | .scale .times, _, _ => exact ⟨'*', rfl, rfl⟩
  | .scale .dividedBy, _, _ => exact ⟨'/', rfl, rfl⟩
  | .opening, _, _ => exact ⟨'(', rfl, rfl⟩
  | .closing, _, _ => exact ⟨')', rfl, rfl⟩

theorem plain_of_symbol? {c : Char} {t : Token} (h : symbol? c = some t) :
    isNumeralChar c = false ∧ plainChar c = c := by
  rw [symbol?.eq_def] at h
  split at h <;> cases h <;> exact ⟨by decide, by decide⟩

theorem toList_text_number (n : Numeral) : (number n).text.toList = n.chars := by
  rw [text, Numeral.text, String.toList_ofList]

theorem map_plainChar_text {t : Token} (h : t.isNotation = true) :
    t.text.toList.map plainChar = t.text.toList := by
  cases hn : t.isNumber with
  | false =>
      obtain ⟨c, htext, hc⟩ := exists_symbol h hn
      rw [htext, List.map_singleton, (plain_of_symbol? hc).2]
  | true =>
      match t, hn with
      | .number n, _ =>
          rw [toList_text_number]
          exact (List.map_congr_left fun c hc => plainChar_of_mem_chars hc).trans (List.map_id _)

theorem ofChars?_text {t : Token} (h : t.isNotation = true) :
    ofChars? t.text.toList = some [t] := by
  cases hn : t.isNumber with
  | false =>
      obtain ⟨c, htext, hc⟩ := exists_symbol h hn
      rw [htext, ofChars?_symbol_cons (plain_of_symbol? hc).1 hc, ofChars?_nil]
      rfl
  | true =>
      match t, hn with
      | .number n, _ => rw [toList_text_number, ofChars?_chars]

/-- Behind a numeral a spelling goes on with a blank or a symbol. -/
theorem Spells.head?_isNumeralChar {tokens : List Token} {text : List Char} (h : Spells tokens text)
    (hkinds : ∀ t ∈ tokens, t.isNotation = true) (hnext : tokens.head?.any isNumber = false) :
    (text.map plainChar).head?.any isNumeralChar = false := by
  have hblank : ∀ blanks rest : List Char, Text.isBlankText blanks = true → blanks ≠ [] →
      ((blanks ++ rest).map plainChar).head?.any isNumeralChar = false := by
    intro blanks rest hblanks hne
    cases blanks with
    | nil => exact absurd rfl hne
    | cons c more =>
        rw [Text.isBlankText, List.all_cons, Bool.and_eq_true] at hblanks
        rw [List.cons_append, List.map_cons, plainChar_of_isBlank hblanks.1]
        rfl
  cases h with
  | nil blank =>
      rcases Decidable.em (text = []) with rfl | hne
      · rfl
      · simpa using hblank text [] blank hne
  | @cons blanks rest t tokens blank spelled =>
      rcases Decidable.em (blanks = []) with rfl | hne
      · obtain ⟨c, htext, hc⟩ := exists_symbol (hkinds t List.mem_cons_self) hnext
        obtain ⟨hnumeral, hplain⟩ := plain_of_symbol? hc
        rw [List.nil_append, htext, List.singleton_append, List.map_cons, hplain]
        exact hnumeral
      · rw [List.append_assoc]
        exact hblank blanks _ blank hne

/-- Every spelling of tokens is read as them, if no two numerals are neighbours. -/
theorem Spells.ofChars?_eq {tokens : List Token} {text : List Char} (h : Spells tokens text)
    (hkinds : ∀ t ∈ tokens, t.isNotation = true) {position : Nat}
    (hnumbers : firstPair adjacentNumbersFault? position tokens = none) :
    ofChars? (text.map plainChar) = some tokens := by
  induction h generalizing position with
  | nil blank =>
      have hblank := ofChars?_blanks_append blank []
      rwa [List.append_nil, ofChars?_nil] at hblank
  | @cons blanks rest t tokens blank spelled ih =>
      have ht := hkinds t List.mem_cons_self
      have hrest : ∀ u ∈ tokens, u.isNotation = true :=
        fun u hu => hkinds u (List.mem_cons_of_mem t hu)
      have hmore : firstPair adjacentNumbersFault? (position + 1) tokens = none := by
        cases tokens with
        | nil => rfl
        | cons u more =>
            exact ((firstPair_cons_cons_eq_none_iff _ position t u more).mp hnumbers).2
      have hcut : CutsNoNumeral t.text.toList (rest.map plainChar) := by
        cases hn : t.isNumber with
        | false =>
            obtain ⟨c, htext, hc⟩ := exists_symbol ht hn
            rw [htext]
            exact .inl (plain_of_symbol? hc).1
        | true =>
            refine .inr (spelled.head?_isNumeralChar hrest ?_)
            cases tokens with
            | nil => rfl
            | cons u more =>
                have hpair := ((firstPair_cons_cons_eq_none_iff _ position t u more).mp hnumbers).1
                simpa [adjacentNumbersFault?, hn] using hpair
      rw [List.append_assoc, List.map_append, ofChars?_blanks_append blank, List.map_append,
        map_plainChar_text ht, ofChars?_append hcut, ofChars?_text ht, ih hrest hmore]
      rfl

end Token

end Calculator
