import Calculator.Proofs.Text.Quotation
import Calculator.Rules

namespace Calculator

open Text

variable {tokens : List Token} {fault : StructuralFault}

theorem head?_structuralFaults (tokens : List Token) :
    (structuralFaults tokens).head? =
      (Rule.notEmpty :: Rule.inOrder).findSome? (Rule.fault? tokens) := by
  rw [structuralFaults, List.findSome?_cons]
  cases Rule.notEmpty.fault? tokens with
  | some fault => rfl
  | none => exact List.head?_filterMap

theorem validate_eq (tokens : List Token) :
    validate tokens =
      (structuralFaults tokens).head?.elim (.ok tokens) .error := by
  rw [head?_structuralFaults, validate]
  cases (Rule.notEmpty :: Rule.inOrder).findSome? (Rule.fault? tokens) <;> rfl

theorem validate_eq_error_iff :
    validate tokens = .error fault ↔ (structuralFaults tokens).head? = some fault := by
  rw [validate_eq]
  cases (structuralFaults tokens).head? <;> simp

theorem validate_eq_ok_iff_structuralFaults :
    validate tokens = .ok tokens ↔ structuralFaults tokens = [] := by
  rw [validate_eq, ← List.head?_eq_none_iff]
  cases (structuralFaults tokens).head? <;> simp

section Messages

variable {front back : String} (hfront : IsPrintableText front.toList)

include hfront

theorem isPrintableText_quotation (hback : IsPrintableText back.toList) (text : String) :
    IsPrintableText (front ++ quoted text ++ back).toList :=
  (hfront.concat (isPrintableText_quoted text)).concat hback

theorem isPrintableText_place (hback : IsPrintableText back.toList) (position : Nat) :
    IsPrintableText (front ++ toString position ++ back).toList :=
  (hfront.concat (isPrintableText_toString position)).concat hback

theorem isPrintableText_neighbours (previous next : String) :
    IsPrintableText (front ++ quoted previous ++ " followed by " ++ quoted next ++ ".").toList := by
  have hfollowed : IsPrintableText " followed by ".toList := by decide
  exact isPrintableText_quotation (isPrintableText_quotation hfront hfollowed previous)
    (by decide) next

end Messages

theorem isPrintableText_lexical (fault : LexicalFault) :
    IsPrintableText fault.issue.message.toList := by
  cases fault with
  | foreignCharacter c position =>
      have hfront : IsPrintableText "Invalid character ".toList := by decide
      have hplace : IsPrintableText " at position ".toList := by decide
      have hquoted := isPrintableText_quotation hfront hplace (String.singleton c)
      exact isPrintableText_place hquoted (by decide) position
  | lonePoint position =>
      change IsPrintableText "Lone decimal point is not a number.".toList
      decide
  | secondPoint numeral position => exact isPrintableText_quotation (by decide) (by decide) numeral

theorem isPrintableText_structural (fault : StructuralFault) :
    IsPrintableText fault.issue.message.toList := by
  have hsequence : IsPrintableText "Invalid token sequence: ".toList := by decide
  cases fault with
  | empty => decide
  | unequalParentheses => decide
  | leading first => exact isPrintableText_quotation (by decide) (by decide) first.text
  | trailing last position => exact isPrintableText_quotation (by decide) (by decide) last.text
  | unopened position => exact isPrintableText_place (by decide) (by decide) position
  | emptyGroup position =>
      change IsPrintableText "Empty parentheses '()' are not allowed.".toList
      decide
  | adjacentNumbers previous next position =>
      exact isPrintableText_neighbours (by decide) previous.text next.text
  | operatorSequence previous next position =>
      exact isPrintableText_neighbours (by decide) previous.text next.text
  | afterOpening next position =>
      exact isPrintableText_neighbours hsequence Token.opening.text next.text
  | beforeOpening previous position =>
      exact isPrintableText_neighbours hsequence previous.text Token.opening.text
  | afterClosing next position =>
      exact isPrintableText_neighbours hsequence Token.closing.text next.text
  | beforeClosing previous position =>
      exact isPrintableText_neighbours hsequence previous.text Token.closing.text

end Calculator
