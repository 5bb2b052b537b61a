import Calculator.Text.Lines
import Calculator.Text.Quoted
import Mathlib.Tactic.SplitIfs

namespace Calculator.Text

variable {u v text : List Char} {c mark : Char}

theorem isPrintableText_append : IsPrintableText (u ++ v) ↔ IsPrintableText u ∧ IsPrintableText v :=
  List.forall_mem_append

theorem isPrintableText_cons :
    IsPrintableText (c :: text) ↔ isPrintable c = true ∧ IsPrintableText text :=
  List.forall_mem_cons

theorem IsPrintableText.concat {s t : String} (hs : IsPrintableText s.toList)
    (ht : IsPrintableText t.toList) : IsPrintableText (s ++ t).toList := by
  rw [String.toList_append]
  exact isPrintableText_append.mpr ⟨hs, ht⟩

theorem isPrintableText_replicate (count : Nat) (h : isPrintable c = true) :
    IsPrintableText (List.replicate count c) := by
  intro d hd
  rwa [List.eq_of_mem_replicate hd]

/-- The digits of a number are printable in every base up to sixteen. -/
theorem isPrintableText_toDigits {base : Nat} (hlow : 1 < base) (hhigh : base ≤ 16) (n : Nat) :
    IsPrintableText (Nat.toDigits base n) := by
  have hdigits : ∀ d < 16, IsPrintableText [Nat.digitChar d] := by decide
  induction n using Nat.strongRecOn with
  | ind n ih =>
      rw [Nat.toDigits_eq_if hlow]
      split
      next hsmall => exact hdigits n (by omega)
      next hlarge =>
        have hlast := Nat.mod_lt n (Nat.zero_lt_of_lt hlow)
        refine isPrintableText_append.mpr ⟨ih _ ?_, hdigits _ (by omega)⟩
        exact Nat.div_lt_self (by omega) hlow

theorem isPrintableText_hexadecimal (width n : Nat) : IsPrintableText (hexadecimal width n) :=
  isPrintableText_append.mpr
    ⟨isPrintableText_replicate _ rfl, isPrintableText_toDigits (by decide) (by decide) n⟩

theorem isPrintableText_escape (hmark : isPrintable mark = true) (c : Char) :
    IsPrintableText (escape mark c) := by
  have hslash : isPrintable '\\' = true := by decide
  simp only [escape]
  split
  next hquoted =>
    rcases hquoted with rfl | rfl
    · decide
    · exact isPrintableText_cons.mpr ⟨hslash, isPrintableText_cons.mpr ⟨hmark, nofun⟩⟩
  next =>
    split_ifs with _ _ _ hc
    · decide
    · decide
    · decide
    · exact isPrintableText_cons.mpr ⟨hc, nofun⟩
    all_goals
      refine isPrintableText_cons.mpr ⟨hslash, isPrintableText_cons.mpr ⟨rfl, ?_⟩⟩
      exact isPrintableText_hexadecimal _ _

theorem isPrintable_quoteMark (text : List Char) : isPrintable (quoteMark text) = true := by
  rw [quoteMark]
  split <;> rfl

theorem isPrintableText_quoted (text : String) : IsPrintableText (quoted text).toList := by
  have hmark := isPrintable_quoteMark text.toList
  rw [quoted, String.toList_ofList]
  refine isPrintableText_append.mpr ⟨isPrintableText_cons.mpr ⟨hmark, ?_⟩, ?_⟩
  · intro c hc
    obtain ⟨d, -, hd⟩ := List.mem_flatMap.mp hc
    exact isPrintableText_escape hmark d c hd
  · exact isPrintableText_cons.mpr ⟨hmark, nofun⟩

theorem isPrintableText_toString (n : Nat) : IsPrintableText (toString n).toList := by
  rw [Nat.toString_eq_ofList_toDigits, String.toList_ofList]
  exact isPrintableText_toDigits (by decide) (by decide) n

theorem IsPrintableText.lines_append (h : IsPrintableText text) (rest : List Char) :
    lines (text ++ '\n' :: rest) = (text ++ ['\n']) :: lines rest := by
  induction text with
  | nil => rw [List.nil_append, lines, if_pos rfl, List.nil_append]
  | cons c text ih =>
      obtain ⟨hc, htext⟩ := isPrintableText_cons.mp h
      have hfeed : c ≠ '\n' := by
        rintro rfl
        cases hc
      rw [List.cons_append, lines, if_neg hfeed, ih htext]
      rfl

end Calculator.Text
