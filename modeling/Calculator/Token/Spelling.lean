import Calculator.Token
import Calculator.Text.Blank

namespace Calculator.Token

/-- That a text is a way to write a list of tokens down. -/
inductive Spells : List Token → List Char → Prop where
  | nil {blanks : List Char} (blank : Text.isBlankText blanks = true) : Spells [] blanks
  | cons {blanks rest : List Char} {t : Token} {tokens : List Token}
      (blank : Text.isBlankText blanks = true) (spelled : Spells tokens rest) :
      Spells (t :: tokens) (blanks ++ t.text.toList ++ rest)

theorem Spells.blank_append {blanks text : List Char} {tokens : List Token}
    (blank : Text.isBlankText blanks = true) (h : Spells tokens text) :
    Spells tokens (blanks ++ text) := by
  cases h with
  | nil more => exact .nil (by simp_all [Text.isBlankText])
  | @cons own rest t tokens more spelled =>
    have both : Text.isBlankText (blanks ++ own) = true := by simp_all [Text.isBlankText]
    simpa using Spells.cons both spelled

theorem spells_flatMap (tokens : List Token) :
    Spells tokens (tokens.flatMap fun t => t.text.toList) := by
  induction tokens with
  | nil => exact .nil rfl
  | cons t rest ih => exact @Spells.cons [] _ t _ rfl ih

theorem spells_joined (tokens : List Token) : Spells tokens (joined tokens).toList := by
  induction tokens with
  | nil => exact .nil rfl
  | cons t rest ih =>
    cases rest with
    | nil => simpa [joined] using spells_flatMap [t]
    | cons u more =>
      have spaced := @Spells.blank_append [' '] _ _ rfl ih
      simpa [joined, String.intercalate_cons_cons] using @Spells.cons [] _ t _ rfl spaced

end Calculator.Token
