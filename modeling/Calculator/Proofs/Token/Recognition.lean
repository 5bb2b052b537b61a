import Calculator.Proofs.Token.Pieces

/-!
What is read from a text, and what is refused. A text has tokens if all its characters are known and
all its pieces are sound; then every piece but a space is a token. Otherwise the first fault is
reported, and an unknown character comes before any piece at fault, wherever it stands.
-/

namespace Calculator

theorem Numeral.ofChars?_chars (n : Numeral) : ofChars? n.chars = some n := by
  obtain ⟨first, rest, fraction⟩ := n
  cases fraction with
  | nil =>
      have hchars : (Numeral.mk first rest []).chars = (first :: rest).map Digit.toChar ++ [] := rfl
      obtain ⟨htake, hdrop⟩ := Token.takeWhile_dropWhile_digits (first :: rest) [] rfl
      simp only [ofChars?, hchars, htake, hdrop, Digit.map_ofChar_toChar]
      rfl
  | cons d more =>
      have hchars : (Numeral.mk first rest (d :: more)).chars =
          (first :: rest).map Digit.toChar ++ '.' :: (d :: more).map Digit.toChar := rfl
      obtain ⟨htake, hdrop⟩ := Token.takeWhile_dropWhile_digits (first :: rest)
        ('.' :: (d :: more).map Digit.toChar) rfl
      have hdigits : ((d :: more).map Digit.toChar).all Char.isDigit = true :=
        List.all_eq_true.mpr fun c => Digit.isDigit_of_mem
      have hwhole : (first :: rest).map Digit.toChar ≠ [] := List.cons_ne_nil _ _
      simp only [ofChars?, hchars, htake, hdrop]
      rw [if_neg hwhole]
      change (if ((d :: more).map Digit.toChar).all Char.isDigit = true then
        some (ofDigits (((first :: rest).map Digit.toChar).map Digit.ofChar)
          (((d :: more).map Digit.toChar).map Digit.ofChar)) else none) = _
      rw [if_pos hdigits, Digit.map_ofChar_toChar, Digit.map_ofChar_toChar]
      rfl

namespace Token

/-- Known characters only, and sound pieces only. -/
def IsLexical (text : List Char) : Prop :=
  (∀ c ∈ text, c ∈ alphabet) ∧ ∀ piece ∈ pieces text, IsSound piece

/-- The fault for which a text is refused, by its code and its position. -/
inductive FirstFault (text : List Char) : Code → Nat → Prop where
  | unknown {before after : List Char} {c : Char} (split : text = before ++ c :: after)
      (known : ∀ d ∈ before, d ∈ alphabet) (unknown : c ∉ alphabet) :
      FirstFault text .invalidCharacter before.length
  | secondPoint {before after : List (List Char)} {front rest : List Char}
      (known : ∀ c ∈ text, c ∈ alphabet)
      (split : pieces text = before ++ (front ++ '.' :: rest) :: after)
      (sound : ∀ piece ∈ before, IsSound piece) (one : front.count '.' = 1) :
      FirstFault text .duplicateDecimalPoint (before.flatten.length + front.length)
  | lonePoint {before after : List (List Char)} (known : ∀ c ∈ text, c ∈ alphabet)
      (split : pieces text = before ++ ['.'] :: after) (sound : ∀ piece ∈ before, IsSound piece) :
      FirstFault text .invalidNumber before.flatten.length

variable {text rest run : List Char} {c : Char} {before after : List (List Char)} {code : Code}
  {position : Nat} {fault : LexicalFault} {tokens : List Token}

theorem lexemes_numeral_cons (h : isNumeralChar c = true) (rest : List Char) :
    lexemes (c :: rest) =
      String.ofList (padded (c :: rest.takeWhile isNumeralChar)) ::
        lexemes (rest.dropWhile isNumeralChar) := by
  have hspace : c :: rest.takeWhile isNumeralChar ≠ [' '] := by
    intro hspace
    rw [(List.cons.inj hspace).1] at h
    cases h
  rw [lexemes, pieces_numeral_cons h, List.filter_cons, if_pos (decide_eq_true hspace),
    List.map_cons, lexemes]

theorem lexemes_space_cons (rest : List Char) : lexemes (' ' :: rest) = lexemes rest := by
  rw [lexemes, pieces_other_cons rfl, List.filter_cons_of_neg (by decide), lexemes]

theorem lexemes_other_cons (h : isNumeralChar c = false) (hspace : c ≠ ' ') (rest : List Char) :
    lexemes (c :: rest) = String.singleton c :: lexemes rest := by
  have hpoint : c ≠ '.' := by
    rintro rfl
    cases h
  have hpadded : padded [c] = [c] :=
    padded_of_no_point_outside (by simpa using hpoint) (by simpa using hpoint)
  rw [lexemes, pieces_other_cons h, List.filter_cons_of_pos (by simpa using hspace), List.map_cons,
    hpadded, lexemes, String.singleton_eq_ofList]

theorem isSound_singleton (h : isNumeralChar c = false) : IsSound [c] := by
  have hpoint : c ≠ '.' := by
    rintro rfl
    cases h
  exact ⟨List.count_le_length, by simpa using hpoint⟩

theorem known_of_dropWhile (known : ∀ d ∈ c :: rest, d ∈ alphabet) :
    ∀ d ∈ rest.dropWhile isNumeralChar, d ∈ alphabet :=
  fun d hd => known d (List.mem_cons_of_mem c ((List.dropWhile_suffix _).subset hd))

/-- The tokens of a text at which nothing is at fault. -/
theorem scan_of_isSound (known : ∀ c ∈ text, c ∈ alphabet)
    (sound : ∀ piece ∈ pieces text, IsSound piece) (position : Nat) :
    ∃ tokens, scan position text = .ok tokens ∧ tokens.map Token.text = lexemes text := by
  fun_induction scan position text with
  | case1 position => exact ⟨[], rfl, rfl⟩
  | case2 position c rest hc run ih =>
      rw [pieces_numeral_cons hc] at sound
      obtain ⟨hrun, hrest⟩ := List.forall_mem_cons.mp sound
      obtain ⟨n, hn, hchars⟩ := ofRun_of_isSound (List.cons_ne_nil _ _)
        (isNumeralChar_of_mem_takeWhile hc rest) hrun position
      obtain ⟨tokens, htokens, htexts⟩ := ih (known_of_dropWhile known) hrest
      refine ⟨.number n :: tokens, ?_, ?_⟩
      · rw [hn, htokens]
        rfl
      · rw [lexemes_numeral_cons hc, List.map_cons, htexts, Token.text, Numeral.text, hchars]
  | case3 position c rest hc ih =>
      have hother := Bool.eq_false_iff.mpr hc
      rw [pieces_other_cons hother] at sound
      obtain ⟨-, hrest⟩ := List.forall_mem_cons.mp sound
      obtain ⟨hcknown, hknown⟩ := List.forall_mem_cons.mp known
      obtain ⟨tokens, htokens, htexts⟩ := ih hknown hrest
      rcases mem_alphabet_cases c hcknown with hnumeral | rfl | ⟨-, hsymbol⟩
      · exact absurd hnumeral hc
      · refine ⟨tokens, ?_, ?_⟩
        · rw [htokens]
          rfl
        · rw [lexemes_space_cons, htexts]
      · obtain ⟨t, ht, htext⟩ := Option.map_eq_some_iff.mp hsymbol
        have hspace : c ≠ ' ' := by
          rintro rfl
          cases ht
        refine ⟨t :: tokens, ?_, ?_⟩
        · rw [htokens, ht]
          rfl
        · rw [lexemes_other_cons hother hspace, List.map_cons, htexts, htext]

/-- The first piece at fault ends the reading. -/
theorem scan_of_split (position : Nat) (split : pieces text = before ++ run :: after)
    (sound : ∀ piece ∈ before, IsSound piece) (hunsound : ¬ IsSound run)
    (hfault : ofRun (position + before.flatten.length) run = .error fault) :
    scan position text = .error fault := by
  fun_induction scan position text generalizing before with
  | case1 position => simp [pieces] at split
  | case2 position c rest hc own =>
      rename_i ih
      rw [pieces_numeral_cons hc] at split
      cases before with
      | nil =>
          obtain ⟨rfl, -⟩ := List.cons.inj split
          rw [List.flatten_nil, List.length_nil, Nat.add_zero] at hfault
          rw [hfault]
          rfl
      | cons first others =>
          obtain ⟨rfl, hothers⟩ := List.cons.inj split
          obtain ⟨hfirst, hsound⟩ := List.forall_mem_cons.mp sound
          obtain ⟨n, hn, -⟩ := ofRun_of_isSound (List.cons_ne_nil _ _)
            (isNumeralChar_of_mem_takeWhile hc rest) hfirst position
          have hplace : position + ((c :: own) :: others).flatten.length =
              position + 1 + own.length + others.flatten.length := by
            rw [List.flatten_cons, List.length_append, List.length_cons]
            omega
          rw [hplace] at hfault
          rw [hn, ih hothers hsound hfault]
          rfl
  | case3 position c rest hc ih =>
      have hother := Bool.eq_false_iff.mpr hc
      rw [pieces_other_cons hother] at split
      cases before with
      | nil =>
          obtain ⟨rfl, -⟩ := List.cons.inj split
          exact absurd (isSound_singleton hother) hunsound
      | cons first others =>
          obtain ⟨rfl, hothers⟩ := List.cons.inj split
          obtain ⟨-, hsound⟩ := List.forall_mem_cons.mp sound
          have hplace : position + ([c] :: others).flatten.length =
              position + 1 + others.flatten.length := by
            rw [List.flatten_cons, List.length_append, List.length_singleton, Nat.add_assoc]
          rw [hplace] at hfault
          rw [ih hothers hsound hfault]
          rfl

theorem ofChars_of_known (known : ∀ c ∈ text, c ∈ alphabet) : ofChars text = scan 0 text := by
  have hnone : foreignCharacter? 0 text = none :=
    (foreignCharacter?_eq_none_iff 0 text).mpr
      (List.all_eq_true.mpr fun c hc => isLegal_iff.mpr (known c hc))
  rw [ofChars, hnone]

theorem foreignCharacter?_append {front : List Char} (known : ∀ d ∈ front, d ∈ alphabet)
    (unknown : c ∉ alphabet) (position : Nat) (rest : List Char) :
    foreignCharacter? position (front ++ c :: rest) =
      some (.foreignCharacter c (position + front.length)) := by
  induction front generalizing position with
  | nil =>
      have hc : ¬ isLegal c = true := fun h => unknown (isLegal_iff.mp h)
      rw [List.nil_append, foreignCharacter?, if_neg hc, List.length_nil, Nat.add_zero]
  | cons d front ih =>
      obtain ⟨hd, hfront⟩ := List.forall_mem_cons.mp known
      rw [List.cons_append, foreignCharacter?, if_pos (isLegal_iff.mpr hd), ih hfront,
        List.length_cons, Nat.add_assoc, Nat.add_comm 1]

theorem isNumeralChar_of_isChain
    (hchain : run.IsChain fun a b => isNumeralChar a && isNumeralChar b)
    (h : ∃ c ∈ run, isNumeralChar c = true) : ∀ c ∈ run, isNumeralChar c = true := by
  induction run with
  | nil => nofun
  | cons a run ih =>
      cases run with
      | nil => simpa using h
      | cons b more =>
          obtain ⟨hpair, hrest⟩ := List.isChain_cons_cons.mp hchain
          obtain ⟨ha, hb⟩ := (Bool.and_eq_true _ _).mp hpair
          exact List.forall_mem_cons.mpr ⟨ha, ih hrest ⟨b, List.mem_cons_self, hb⟩⟩

theorem isNumeralChar_of_mem_pieces (h : run ∈ pieces text) (hpoint : '.' ∈ run) :
    ∀ c ∈ run, isNumeralChar c = true :=
  isNumeralChar_of_isChain (List.isChain_of_mem_splitBy h) ⟨'.', hpoint, rfl⟩

theorem mem_pieces_of_split (split : pieces text = before ++ run :: after) : run ∈ pieces text := by
  rw [split]
  exact List.mem_append_right before List.mem_cons_self

theorem point_mem_of_not_isSound (h : ¬ IsSound run) : '.' ∈ run := by
  by_contra hpoint
  refine h ⟨?_, ?_⟩
  · rw [List.count_eq_zero.mpr hpoint]
    exact Nat.zero_le 1
  · rintro rfl
    exact hpoint List.mem_cons_self

theorem getElem?_of_split {front rest : List Char}
    (split : pieces text = before ++ (front ++ c :: rest) :: after) :
    text[before.flatten.length + front.length]? = some c := by
  have htext : text = (before ++ (front ++ c :: rest) :: after).flatten := by
    rw [← split, pieces, List.flatten_splitBy]
  rw [htext]
  simp

theorem FirstFault.reported (h : FirstFault text code position) :
    ∃ fault c, ofChars text = .error fault ∧ fault.issue.code = code ∧
      fault.issue.position = some position ∧ text[position]? = some c ∧
      fault.issue.token = some (String.singleton c) := by
  cases h with
  | @unknown front rest c split known unknown =>
      refine ⟨.foreignCharacter c front.length, c, ?_, rfl, rfl, ?_, rfl⟩
      · rw [ofChars, split, foreignCharacter?_append known unknown, Nat.zero_add]
      · rw [split]
        exact List.getElem?_append_right (Nat.le_refl _) |>.trans (by rw [Nat.sub_self]; rfl)
  | @secondPoint before after front rest known split sound one =>
      have hpoint : '.' ∈ front ++ '.' :: rest := List.mem_append_right front List.mem_cons_self
      have hrun := isNumeralChar_of_mem_pieces (mem_pieces_of_split split) hpoint
      have hfront : ∀ c ∈ front, isNumeralChar c = true :=
        fun c hc => hrun c (List.mem_append_left _ hc)
      have hunsound : ¬ IsSound (front ++ '.' :: rest) := by
        rintro ⟨hcount, -⟩
        rw [List.count_append, one, List.count_cons_self] at hcount
        omega
      have hfault := ofRun_second_point (0 + before.flatten.length) hfront one rest
      have hscan := scan_of_split 0 split sound hunsound hfault
      rw [← ofChars_of_known known, Nat.zero_add] at hscan
      exact ⟨_, '.', hscan, rfl, rfl, getElem?_of_split split, rfl⟩
  | @lonePoint before after known split sound =>
      have hfirst : pieces text = before ++ ([] ++ '.' :: []) :: after := split
      have hfault := ofRun_lone_point (0 + before.flatten.length)
      have hscan := scan_of_split 0 split sound (fun h => h.2 rfl) hfault
      rw [← ofChars_of_known known, Nat.zero_add] at hscan
      exact ⟨_, '.', hscan, rfl, rfl, getElem?_of_split hfirst, rfl⟩

theorem exists_first_not {α : Type} {p : α → Prop} [DecidablePred p] {xs : List α}
    (h : ¬ ∀ x ∈ xs, p x) :
    ∃ before x after, xs = before ++ x :: after ∧ (∀ y ∈ before, p y) ∧ ¬ p x := by
  induction xs with
  | nil => exact absurd nofun h
  | cons x xs ih =>
      rcases Decidable.em (p x) with hx | hx
      · obtain ⟨before, y, after, rfl, hbefore, hy⟩ :=
          ih fun hxs => h (List.forall_mem_cons.mpr ⟨hx, hxs⟩)
        exact ⟨x :: before, y, after, rfl, List.forall_mem_cons.mpr ⟨hx, hbefore⟩, hy⟩
      · exact ⟨[], x, xs, rfl, nofun, hx⟩

theorem exists_firstFault (h : ¬ IsLexical text) :
    ∃ code position, FirstFault text code position := by
  rcases Decidable.em (∀ c ∈ text, c ∈ alphabet) with known | hunknown
  · obtain ⟨before, run, after, split, sound, hunsound⟩ :=
      exists_first_not fun sound => h ⟨known, sound⟩
    have hrun := isNumeralChar_of_mem_pieces (mem_pieces_of_split split)
      (point_mem_of_not_isSound hunsound)
    rcases point_or_second_point hrun hunsound with rfl | ⟨front, rest, rfl, one⟩
    · exact ⟨_, _, .lonePoint known split sound⟩
    · exact ⟨_, _, .secondPoint known split sound one⟩
  · obtain ⟨front, c, rest, split, known, unknown⟩ := exists_first_not hunknown
    exact ⟨_, _, .unknown split known unknown⟩

theorem exists_ofChars_iff : (∃ tokens, ofChars text = .ok tokens) ↔ IsLexical text := by
  constructor
  · rintro ⟨tokens, htokens⟩
    by_contra hfaulty
    obtain ⟨code, position, hfirst⟩ := exists_firstFault hfaulty
    obtain ⟨fault, c, hfault, -⟩ := hfirst.reported
    cases htokens.symm.trans hfault
  · rintro ⟨known, sound⟩
    obtain ⟨tokens, htokens, -⟩ := scan_of_isSound known sound 0
    exact ⟨tokens, (ofChars_of_known known).trans htokens⟩

theorem map_text_of_ofChars (h : ofChars text = .ok tokens) :
    tokens.map Token.text = lexemes text := by
  obtain ⟨known, sound⟩ := exists_ofChars_iff.mp ⟨tokens, h⟩
  obtain ⟨others, hothers, htexts⟩ := scan_of_isSound known sound 0
  rw [ofChars_of_known known, hothers] at h
  exact Except.ok.inj h ▸ htexts

/-- What is refused has a first fault, and that one is reported. -/
theorem exists_firstFault_of_ofChars (h : ofChars text = .error fault) :
    ∃ code position c, FirstFault text code position ∧ fault.issue.code = code ∧
      fault.issue.position = some position ∧ text[position]? = some c ∧
      fault.issue.token = some (String.singleton c) := by
  have hfaulty : ¬ IsLexical text := by
    intro hlexical
    obtain ⟨tokens, htokens⟩ := exists_ofChars_iff.mpr hlexical
    cases htokens.symm.trans h
  obtain ⟨code, position, hfirst⟩ := exists_firstFault hfaulty
  obtain ⟨reported, c, hreported, hissue⟩ := hfirst.reported
  obtain rfl := Except.error.inj (hreported.symm.trans h)
  exact ⟨code, position, c, hfirst, hissue⟩

theorem reported_iff_firstFault :
    (∃ fault, ofChars text = .error fault ∧ fault.issue.code = code ∧
        fault.issue.position = some position) ↔ FirstFault text code position := by
  constructor
  · rintro ⟨fault, hfault, hcode, hposition⟩
    obtain ⟨code', position', c, hfirst, hcode', hposition', -⟩ :=
      exists_firstFault_of_ofChars hfault
    obtain rfl := hcode'.symm.trans hcode
    obtain rfl := Option.some.inj (hposition'.symm.trans hposition)
    exact hfirst
  · intro hfirst
    obtain ⟨fault, c, hfault, hcode, hposition, -⟩ := hfirst.reported
    exact ⟨fault, hfault, hcode, hposition⟩

theorem ofText_text_number (n : Numeral) : ofText (number n).text = number n := by
  have hsymbol : ∀ c, isNumeralChar c = false → (number n).text ≠ String.singleton c := by
    intro c hc hn
    have hmem : c ∈ n.chars := by
      rw [← toList_text_number, hn, String.toList_singleton]
      exact List.mem_singleton_self c
    rw [isNumeralChar_of_mem_chars hmem] at hc
    cases hc
  rw [ofText.eq_def]
  split
  · next h => exact absurd h (hsymbol '+' rfl)
  · next h => exact absurd h (hsymbol '-' rfl)
  · next h => exact absurd h (hsymbol '*' rfl)
  · next h => exact absurd h (hsymbol '/' rfl)
  · next h => exact absurd h (hsymbol '(' rfl)
  · next h => exact absurd h (hsymbol ')' rfl)
  · rw [toList_text_number, Numeral.ofChars?_chars]
    rfl

theorem number_or_symbol_of_isNotation {t : Token} (h : t.isNotation = true) :
    (ofText t.text).isNumber = true ∨ t.text ∈ ["+", "-", "*", "/", "(", ")"] := by
  cases t with
  | number n =>
      left
      rw [ofText_text_number]
      rfl
  | sign s => cases s <;> decide
  | scale s => cases s <;> decide
  | opening => decide
  | closing => decide
  | other text => cases h

/-- A text has tokens if it has known characters only and each of its numerals at most one point
and a digit. The tokens are then its pieces but for the spaces, with a zero where a digit is
missing. What is refused is refused for its first fault, where an unknown character comes before
all numerals, and the character at the fault is shown. -/
theorem texts_with_tokens (text : List Char) :
    ((∃ tokens, ofChars text = .ok tokens) ↔ IsLexical text) ∧
      (∀ tokens, ofChars text = .ok tokens →
        tokens.map Token.text = lexemes text ∧
          ∀ t ∈ tokens, (ofText t.text).isNumber = true ∨ t.text ∈ ["+", "-", "*", "/", "(", ")"]) ∧
      (∀ code position,
        (∃ fault, ofChars text = .error fault ∧ fault.issue.code = code ∧
          fault.issue.position = some position) ↔ FirstFault text code position) ∧
      ∀ fault, ofChars text = .error fault →
        ∃ position c, fault.issue.position = some position ∧ text[position]? = some c ∧
          fault.issue.token = some (String.singleton c) := by
  refine ⟨exists_ofChars_iff, fun tokens h => ⟨map_text_of_ofChars h, fun t ht => ?_⟩,
    fun code position => reported_iff_firstFault, fun fault h => ?_⟩
  · exact number_or_symbol_of_isNotation (isNotation_of_ofChars h t ht)
  · obtain ⟨-, position, c, -, -, hposition, hc, htoken⟩ := exists_firstFault_of_ofChars h
    exact ⟨position, c, hposition, hc, htoken⟩

example : lexemes "3*.5 12.".toList = ["3", "*", "0.5", "12.0"] := by decide

end Token

end Calculator
