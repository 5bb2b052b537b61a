import Calculator.Proofs.Expression.NormalForm
import Calculator.Proofs.Rules.Diagnosis
import Calculator.Proofs.Token.Places

namespace Calculator

open Text (isBlank isBlankText)
open Token

variable {text : String} {front message : String}

theorem Token.eq_space_of_scan {position : Nat} {text : List Char} (h : scan position text = .ok [])
    (hlegal : ∀ c ∈ text, isLegal c = true) : ∀ c ∈ text, c = ' ' := by
  fun_induction scan position text with
  | case1 position => exact List.forall_mem_nil _
  | case2 position c rest hnumeral run ih =>
      obtain ⟨t, -, hrest⟩ := exists_of_bind_eq_ok h
      obtain ⟨more, -, hcons⟩ := exists_of_bind_eq_ok hrest
      cases hcons
  | case3 position c rest hnumeral ih =>
      obtain ⟨more, hmore, hnone⟩ := exists_of_bind_eq_ok h
      obtain ⟨hsymbol, rfl⟩ := List.append_eq_nil_iff.mp (Except.ok.inj hnone)
      have hc := hlegal c List.mem_cons_self
      rw [isLegal, Option.toList_eq_nil_iff.mp hsymbol] at hc
      refine List.forall_mem_cons.mpr ⟨by simpa [hnumeral] using hc, ih hmore ?_⟩
      exact fun d hd => hlegal d (List.mem_cons_of_mem c hd)

theorem isBlank_of_plainChar {c : Char} (h : plainChar c = ' ') : isBlank c = true := by
  by_contra hsolid
  rw [Bool.not_eq_true] at hsolid
  rw [plainChar_of_solid hsolid] at h
  rw [← isBlank_standardChar, h] at hsolid
  cases hsolid

theorem isBlankText_of_writtenTokens (h : writtenTokens text = .ok []) :
    isBlankText text.toList = true := by
  have hread := writtenTokens_eq_ok_iff.mp h
  rw [ofChars?_eq_scan] at hread
  split at hread
  next hlegal =>
    have hscan : scan 0 (text.toList.map plainChar) = .ok [] := by
      cases hresult : scan 0 (text.toList.map plainChar) with
      | error fault => simp [hresult, Except.toOption] at hread
      | ok tokens => simpa [hresult, Except.toOption] using hread
    have hspaces := eq_space_of_scan hscan (List.all_eq_true.mp hlegal)
    refine List.all_eq_true.mpr fun c hc => isBlank_of_plainChar ?_
    exact hspaces _ (List.mem_map_of_mem hc)
  next => cases hread

theorem eq_nil_of_validate {merged : List Token} (h : validate merged = .error .empty) :
    merged = [] := by
  have hmem : StructuralFault.empty ∈ structuralFaults merged :=
    List.mem_of_mem_head? (validate_eq_error_iff.mp h)
  obtain ⟨rule, hrule⟩ := mem_structuralFaults.mp hmem
  exact (firstViolation_of_fault? hrule).1.violation.eq_nil

theorem isBlankText_of_parse (h : parse text = .error (.structural .empty)) :
    isBlankText text.toList = true := by
  rcases report_cases text with
    ⟨fault, -, hparse⟩ | ⟨merged, fault, more, htokens, hfaults, hparse⟩ | ⟨_, e, -, -, hparse⟩
  · cases h.symm.trans hparse
  · cases h.symm.trans hparse
    have hrefused : validate merged = .error .empty :=
      validate_eq_error_iff.mpr (by rw [hfaults, List.head?_cons])
    obtain rfl := eq_nil_of_validate hrefused
    obtain ⟨written, hwritten, hmerged⟩ := map_eq_ok_iff.mp htokens
    rw [mergeSigns_eq_nil_iff.mp hmerged] at hwritten
    exact isBlankText_of_writtenTokens hwritten
  · cases h.symm.trans hparse

section Messages

theorem prefix_concat (h : front.toList <+: message.toList) (back : String) :
    front.toList <+: (message ++ back).toList := by
  rw [String.toList_append]
  exact h.trans (List.prefix_append _ _)

theorem message_ne (h : front.toList <+: message.toList)
    (hother : ¬ front.toList <+: StructuralFault.empty.issue.message.toList) :
    message ≠ StructuralFault.empty.issue.message := by
  rintro rfl
  exact hother h

theorem lexical_message_ne (fault : LexicalFault) :
    fault.issue.message ≠ StructuralFault.empty.issue.message := by
  have hbegins (front : String) : front.toList <+: front.toList := List.prefix_rfl
  cases fault with
  | foreignCharacter c position =>
      have hmessage :=
        prefix_concat (hbegins "Invalid character ") (Text.quoted (String.singleton c))
      refine message_ne (prefix_concat (prefix_concat (prefix_concat hmessage _) _) _) ?_
      decide
  | lonePoint position =>
      exact message_ne (hbegins "Lone decimal point is not a number.") (by decide)
  | secondPoint numeral position =>
      have hmessage :=
        prefix_concat (hbegins "Second decimal point in number ") (Text.quoted numeral)
      exact message_ne (prefix_concat hmessage _) (by decide)

theorem sequenceMessage_ne (previous next : Token) :
    sequenceMessage previous next ≠ StructuralFault.empty.issue.message := by
  have hfront : "Invalid token sequence: ".toList <+: "Invalid token sequence: ".toList :=
    List.prefix_rfl
  have hmessage := prefix_concat (prefix_concat hfront (Text.quoted previous.text)) " followed by "
  exact message_ne (prefix_concat (prefix_concat hmessage _) _) (by decide)

theorem structural_message_ne {fault : StructuralFault} (h : fault ≠ .empty) :
    fault.issue.message ≠ StructuralFault.empty.issue.message := by
  have hbegins (front : String) : front.toList <+: front.toList := List.prefix_rfl
  cases fault with
  | empty => exact absurd rfl h
  | leading first =>
      have hmessage :=
        prefix_concat (hbegins "Expression cannot start with ") (Text.quoted first.text)
      exact message_ne (prefix_concat hmessage _) (by decide)
  | trailing last position =>
      have hmessage := prefix_concat (hbegins "Expression cannot end with ") (Text.quoted last.text)
      exact message_ne (prefix_concat hmessage _) (by decide)
  | unopened position =>
      have hmessage := prefix_concat (hbegins "Closing parenthesis at token ") (toString position)
      exact message_ne (prefix_concat hmessage _) (by decide)
  | unequalParentheses =>
      exact message_ne (hbegins "Mismatched number of opening and closing parentheses.") (by decide)
  | emptyGroup position =>
      exact message_ne (hbegins "Empty parentheses '()' are not allowed.") (by decide)
  | adjacentNumbers previous next position =>
      have hmessage :=
        prefix_concat (hbegins "Two consecutive numbers: ") (Text.quoted previous.text)
      refine message_ne (prefix_concat (prefix_concat (prefix_concat hmessage _) _) _) ?_
      decide
  | afterOpening next position => exact sequenceMessage_ne _ _
  | beforeOpening previous position => exact sequenceMessage_ne _ _
  | afterClosing next position => exact sequenceMessage_ne _ _
  | beforeClosing previous position => exact sequenceMessage_ne _ _
  | operatorSequence previous next position =>
      have hmessage :=
        prefix_concat (hbegins "Illegal operator combination: ") (Text.quoted previous.text)
      refine message_ne (prefix_concat (prefix_concat (prefix_concat hmessage _) _) _) ?_
      decide

theorem message_ne_of_parse {rejection : Rejection} (h : parse text = .error rejection)
    (hfilled : isBlankText text.toList = false) :
    rejection.issue.message ≠ StructuralFault.empty.issue.message := by
  rcases lexical_or_structural_of_parse h with ⟨fault, rfl⟩ | ⟨fault, rfl⟩
  · exact lexical_message_ne fault
  · refine structural_message_ne ?_
    rintro rfl
    rw [isBlankText_of_parse h] at hfilled
    cases hfilled

end Messages

end Calculator
