import Calculator.Proofs.Token.Reading
import Mathlib.Data.Bool.AllAny
import Mathlib.Data.List.SplitBy

namespace Calculator

theorem Digit.toChar_ofChar {c : Char} (h : c.isDigit = true) : toChar (ofChar c) = c := by
  simp only [Char.isDigit, Bool.and_eq_true, decide_eq_true_eq] at h
  have hlow : 48 ≤ c.toNat := h.1
  have hhigh : c.toNat ≤ 57 := h.2
  have hvalue : '0'.toNat + (ofChar c).val = c.toNat := by
    change 48 + (c.toNat - 48) % 10 = c.toNat
    omega
  rw [toChar, hvalue, Char.ofNat_toNat]

namespace Token

/-- The characters that a text may be made of. -/
def alphabet : List Char := "0123456789.+-*/() ".toList

/-- Digits and points that stand together, as many as there are; any other character alone. -/
def pieces (text : List Char) : List (List Char) :=
  text.splitBy fun a b => isNumeralChar a && isNumeralChar b

/-- At most one point, and not only a point. -/
def IsSound (piece : List Char) : Prop := piece.count '.' ≤ 1 ∧ piece ≠ ['.']

instance : DecidablePred IsSound := fun _ => instDecidableAnd

/-- The piece with a zero where no digit stands before its point or behind it. -/
def padded (piece : List Char) : List Char :=
  if piece.head? = some '.' then '0' :: piece
  else if piece.getLast? = some '.' then piece ++ ['0']
  else piece

/-- What the tokens of a text are to be: its pieces but for the spaces, in their order. -/
def lexemes (text : List Char) : List String :=
  ((pieces text).filter (· ≠ [' '])).map fun piece => String.ofList (padded piece)

variable {text run u v rest : List Char} {c : Char}

theorem toChar_mem_alphabet (d : Digit) : d.toChar ∈ alphabet := by
  revert d
  decide

theorem mem_alphabet_of_isNumeralChar (h : isNumeralChar c = true) : c ∈ alphabet := by
  rw [isNumeralChar, Bool.or_eq_true, beq_iff_eq] at h
  rcases h with hdigit | rfl
  · rw [← Digit.toChar_ofChar hdigit]
    exact toChar_mem_alphabet _
  · decide

theorem mem_alphabet_cases :
    ∀ c ∈ alphabet, isNumeralChar c = true ∨ c = ' ' ∨
      isNumeralChar c = false ∧ (symbol? c).map Token.text = some (String.singleton c) :=
  List.all_iff_forall_prop.mp (by decide)

theorem isLegal_iff : isLegal c = true ↔ c ∈ alphabet := by
  constructor
  · intro h
    rw [isLegal, Bool.or_eq_true, Bool.or_eq_true, beq_iff_eq, Option.isSome_iff_exists] at h
    rcases h with (hnumeral | rfl) | ⟨t, ht⟩
    · exact mem_alphabet_of_isNumeralChar hnumeral
    · decide
    · rw [symbol?.eq_def] at ht
      split at ht <;> first | decide | cases ht
  · have hlegal : ∀ c ∈ alphabet, isLegal c = true := List.all_eq_true.mp (by decide)
    exact hlegal c

theorem pieces_append (h : CutsNoNumeral u v) : pieces (u ++ v) = pieces u ++ pieces v := by
  refine List.splitBy_append fun a ha b hb => ?_
  rw [Option.mem_def] at ha hb
  rw [CutsNoNumeral, ha, hb] at h
  exact Bool.and_eq_false_iff.mpr h

theorem pieces_run (hne : run ≠ []) (h : ∀ c ∈ run, isNumeralChar c = true) :
    pieces run = [run] := by
  refine List.splitBy_of_isChain hne (List.pairwise_of_forall_mem_list ?_).isChain
  intro a ha b hb
  rw [h a ha, h b hb]
  rfl

theorem pieces_other_cons (h : isNumeralChar c = false) (rest : List Char) :
    pieces (c :: rest) = [c] :: pieces rest :=
  pieces_append (u := [c]) (.inl h)

theorem isNumeralChar_of_mem_takeWhile (h : isNumeralChar c = true) (rest : List Char) :
    ∀ d ∈ c :: rest.takeWhile isNumeralChar, isNumeralChar d = true :=
  List.forall_mem_cons.mpr ⟨h, List.all_eq_true.mp List.all_takeWhile⟩

theorem pieces_numeral_cons (h : isNumeralChar c = true) (rest : List Char) :
    pieces (c :: rest) =
      (c :: rest.takeWhile isNumeralChar) :: pieces (rest.dropWhile isNumeralChar) := by
  have hcut : CutsNoNumeral (c :: rest.takeWhile isNumeralChar) (rest.dropWhile isNumeralChar) := by
    right
    have hhead := List.head?_dropWhile_not isNumeralChar rest
    cases hd : (rest.dropWhile isNumeralChar).head? with
    | none => rfl
    | some d =>
        rw [hd] at hhead
        exact hhead
  have hrun := pieces_run (List.cons_ne_nil _ _) (isNumeralChar_of_mem_takeWhile h rest)
  have hsplit := pieces_append hcut
  rwa [List.cons_append, List.takeWhile_append_dropWhile, hrun] at hsplit

theorem point_notMem_digits (digits : List Digit) : '.' ∉ digits.map Digit.toChar := by
  intro hpoint
  cases Digit.isDigit_of_mem hpoint

theorem count_point_digits (digits : List Digit) : (digits.map Digit.toChar).count '.' = 0 :=
  List.count_eq_zero.mpr (point_notMem_digits digits)

theorem digits_or_point (h : ∀ c ∈ run, isNumeralChar c = true) :
    ∃ digits : List Digit, run = digits.map Digit.toChar ∨
      ∃ rest, run = digits.map Digit.toChar ++ '.' :: rest := by
  induction run with
  | nil => exact ⟨[], .inl rfl⟩
  | cons c run ih =>
      obtain ⟨hc, hrun⟩ := List.forall_mem_cons.mp h
      rw [isNumeralChar, Bool.or_eq_true, beq_iff_eq] at hc
      rcases hc with hdigit | rfl
      · obtain ⟨digits, hdigits⟩ := ih hrun
        refine ⟨Digit.ofChar c :: digits, ?_⟩
        rw [List.map_cons, Digit.toChar_ofChar hdigit]
        rcases hdigits with rfl | ⟨rest, rfl⟩
        · exact .inl rfl
        · exact .inr ⟨rest, rfl⟩
      · exact ⟨[], .inr ⟨run, rfl⟩⟩

theorem isNumeralChar_behind_point {front : List Char}
    (h : ∀ c ∈ front ++ '.' :: rest, isNumeralChar c = true) : ∀ c ∈ rest, isNumeralChar c = true :=
  fun c hc => h c (List.mem_append_right front (List.mem_cons_of_mem '.' hc))

theorem count_point_around (digits : List Digit) (rest : List Char) :
    (digits.map Digit.toChar ++ '.' :: rest).count '.' = rest.count '.' + 1 := by
  rw [List.count_append, count_point_digits, List.count_cons_self, Nat.zero_add]

theorem exists_digits (h : ∀ c ∈ run, isNumeralChar c = true) (hnone : run.count '.' = 0) :
    ∃ digits : List Digit, run = digits.map Digit.toChar := by
  obtain ⟨digits, hdigits | ⟨rest, rfl⟩⟩ := digits_or_point h
  · exact ⟨digits, hdigits⟩
  · rw [count_point_around] at hnone
    omega

theorem exists_whole_fraction (h : ∀ c ∈ run, isNumeralChar c = true) (hone : run.count '.' = 1) :
    ∃ whole fraction : List Digit,
      run = whole.map Digit.toChar ++ '.' :: fraction.map Digit.toChar := by
  obtain ⟨whole, rfl | ⟨rest, rfl⟩⟩ := digits_or_point h
  · rw [count_point_digits] at hone
    omega
  · rw [count_point_around, Nat.add_eq_right] at hone
    obtain ⟨fraction, rfl⟩ := exists_digits (isNumeralChar_behind_point h) hone
    exact ⟨whole, fraction, rfl⟩

theorem exists_second_point (h : ∀ c ∈ run, isNumeralChar c = true) (htwo : 1 < run.count '.') :
    ∃ front rest, run = front ++ '.' :: rest ∧ front.count '.' = 1 := by
  obtain ⟨whole, rfl | ⟨rest, rfl⟩⟩ := digits_or_point h
  · rw [count_point_digits] at htwo
    omega
  · rw [count_point_around] at htwo
    obtain ⟨fraction, rfl | ⟨more, rfl⟩⟩ := digits_or_point (isNumeralChar_behind_point h)
    · rw [count_point_digits] at htwo
      omega
    · refine ⟨whole.map Digit.toChar ++ '.' :: fraction.map Digit.toChar, more, by simp, ?_⟩
      rw [count_point_around, count_point_digits]

theorem ofRun_lone_point (position : Nat) :
    ofRun position ['.'] = .error (.lonePoint position) := rfl

theorem ofRun_second_point (position : Nat) {front : List Char}
    (h : ∀ c ∈ front, isNumeralChar c = true) (hone : front.count '.' = 1) (rest : List Char) :
    ofRun position (front ++ '.' :: rest) =
      .error (.secondPoint (String.ofList (front ++ ['.'])) (position + front.length)) := by
  obtain ⟨whole, fraction, rfl⟩ := exists_whole_fraction h hone
  obtain ⟨hwhole, hpoint⟩ := takeWhile_dropWhile_digits whole
    ('.' :: (fraction.map Digit.toChar ++ '.' :: rest)) rfl
  obtain ⟨hfraction, hrest⟩ := takeWhile_dropWhile_digits fraction ('.' :: rest) rfl
  have hlength :
      position + (whole.map Digit.toChar).length + 1 + (fraction.map Digit.toChar).length =
        position + (whole.map Digit.toChar ++ '.' :: fraction.map Digit.toChar).length := by
    rw [List.length_append, List.length_cons]
    omega
  simp only [ofRun, List.append_assoc, List.cons_append, hwhole, hpoint, hfraction, hrest, hlength]
  rw [if_pos (List.cons_ne_nil _ _)]

theorem ofRun_digits (position : Nat) (digits : List Digit) :
    ofRun position (digits.map Digit.toChar) = .ok (.number (.ofDigits digits [])) := by
  obtain ⟨htake, hdrop⟩ := takeWhile_dropWhile_digits digits [] rfl
  rw [List.append_nil] at htake hdrop
  simp only [ofRun, htake, hdrop, Digit.map_ofChar_toChar]

theorem ofRun_one_point (position : Nat) {whole fraction : List Digit}
    (h : ¬ (whole = [] ∧ fraction = [])) :
    ofRun position (whole.map Digit.toChar ++ '.' :: fraction.map Digit.toChar) =
      .ok (.number (.ofDigits whole (if fraction = [] then [0] else fraction))) := by
  obtain ⟨hwhole, hpoint⟩ :=
    takeWhile_dropWhile_digits whole ('.' :: fraction.map Digit.toChar) rfl
  obtain ⟨hfraction, hrest⟩ := takeWhile_dropWhile_digits fraction [] rfl
  rw [List.append_nil] at hfraction hrest
  have hplaces : (if fraction = [] then ['0'] else fraction.map Digit.toChar).map Digit.ofChar =
      if fraction = [] then [0] else fraction := by
    split
    · rfl
    · exact Digit.map_ofChar_toChar fraction
  simp only [ofRun, hwhole, hpoint, hfraction, hrest, List.map_eq_nil_iff, h, hplaces,
    Digit.map_ofChar_toChar]
  rfl

theorem padded_of_no_point_outside (hhead : run.head? ≠ some '.')
    (hlast : run.getLast? ≠ some '.') : padded run = run := by
  rw [padded, if_neg hhead, if_neg hlast]

theorem padded_digits (digits : List Digit) :
    padded (digits.map Digit.toChar) = digits.map Digit.toChar := by
  have hpoint := point_notMem_digits digits
  refine padded_of_no_point_outside (fun hhead => hpoint ?_) (fun hlast => hpoint ?_)
  · exact List.mem_of_mem_head? hhead
  · exact List.mem_of_getLast? hlast

/-- The numeral of a run with one point has the digits of the run, and a zero on an empty side. -/
theorem chars_ofDigits_one_point {whole fraction : List Digit}
    (h : ¬ (whole = [] ∧ fraction = [])) :
    (Numeral.ofDigits whole (if fraction = [] then [0] else fraction)).chars =
      padded (whole.map Digit.toChar ++ '.' :: fraction.map Digit.toChar) := by
  cases whole with
  | nil =>
      cases fraction with
      | nil => exact absurd ⟨rfl, rfl⟩ h
      | cons d more => rfl
  | cons first more =>
      have hfirst : ∀ behind, ((first :: more).map Digit.toChar ++ behind).head? ≠ some '.' := by
        intro behind hhead
        exact point_notMem_digits [first] (List.mem_singleton.mpr (Option.some.inj hhead).symm)
      cases fraction with
      | nil =>
          have hlast : ((first :: more).map Digit.toChar ++ ['.']).getLast? = some '.' :=
            List.getLast?_concat
          rw [List.map_nil, padded, if_neg (hfirst _), if_pos hlast, List.append_assoc]
          rfl
      | cons d places =>
          rw [padded_of_no_point_outside (hfirst _)]
          · rfl
          · intro hlast
            rw [List.getLast?_append_cons, List.map_cons, List.getLast?_cons_cons] at hlast
            exact point_notMem_digits (d :: places) (List.mem_of_getLast? hlast)

theorem ofRun_of_isSound (hne : run ≠ []) (h : ∀ c ∈ run, isNumeralChar c = true)
    (hsound : IsSound run) (position : Nat) :
    ∃ n, ofRun position run = .ok (.number n) ∧ n.chars = padded run := by
  obtain ⟨hcount, hpoint⟩ := hsound
  rcases Nat.le_one_iff_eq_zero_or_eq_one.mp hcount with hnone | hone
  · obtain ⟨digits, rfl⟩ := exists_digits h hnone
    refine ⟨_, ofRun_digits position digits, ?_⟩
    rw [padded_digits]
    cases digits with
    | nil => exact absurd rfl hne
    | cons d more => exact List.append_nil _
  · obtain ⟨whole, fraction, rfl⟩ := exists_whole_fraction h hone
    have hdigit : ¬ (whole = [] ∧ fraction = []) := by
      rintro ⟨rfl, rfl⟩
      exact hpoint rfl
    exact ⟨_, ofRun_one_point position hdigit, chars_ofDigits_one_point hdigit⟩

/-- A run at fault is a point alone or has a second one. -/
theorem point_or_second_point (h : ∀ c ∈ run, isNumeralChar c = true) (hunsound : ¬ IsSound run) :
    run = ['.'] ∨ ∃ front rest, run = front ++ '.' :: rest ∧ front.count '.' = 1 := by
  rcases Decidable.em (run = ['.']) with hpoint | hpoint
  · exact .inl hpoint
  · refine .inr (exists_second_point h ?_)
    exact Nat.lt_of_not_le fun hcount => hunsound ⟨hcount, hpoint⟩

end Token

end Calculator
