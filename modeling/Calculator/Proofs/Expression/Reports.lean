import Calculator.Proofs.Expression.Agreement
import Calculator.Proofs.Rules.Reports

namespace Calculator

open Text (IsPrintableText)

variable {text : String} {merged : List Token} {fault : StructuralFault} {rejection : Rejection}

theorem parse_of_lexical {fault : LexicalFault} (h : tokens text = .error fault) :
    parse text = .error (.lexical fault) := by
  rw [parse, h]
  rfl

theorem parse_of_structural (h : tokens text = .ok merged)
    (hrefused : validate merged = .error fault) :
    parse text = .error (.structural fault) := by
  rw [parse_of_tokens h, hrefused]
  rfl

theorem exists_parse_of_unfaulted (h : tokens text = .ok merged)
    (hnone : structuralFaults merged = []) : ∃ e, parse text = .ok e := by
  have haccepted := validate_eq_ok_iff_structuralFaults.mpr hnone
  obtain ⟨e, he⟩ := (validate_eq_ok_iff_exists_tree h).mp haccepted
  refine ⟨e, ?_⟩
  rw [parse_of_validate h haccepted, he]
  rfl

/-- A text has a fault among its characters, or faults among its tokens, or a tree. -/
theorem report_cases (text : String) :
    (∃ fault, tokens text = .error fault ∧ parse text = .error (.lexical fault)) ∨
      (∃ merged fault more, tokens text = .ok merged ∧ structuralFaults merged = fault :: more ∧
        parse text = .error (.structural fault)) ∨
      ∃ merged e, tokens text = .ok merged ∧ structuralFaults merged = [] ∧ parse text = .ok e := by
  cases htokens : tokens text with
  | error fault => exact .inl ⟨fault, rfl, parse_of_lexical htokens⟩
  | ok merged =>
      cases hfaults : structuralFaults merged with
      | nil =>
          obtain ⟨e, he⟩ := exists_parse_of_unfaulted htokens hfaults
          exact .inr (.inr ⟨merged, e, rfl, hfaults, he⟩)
      | cons fault more =>
          have hrefused : validate merged = .error fault :=
            validate_eq_error_iff.mpr (by rw [hfaults, List.head?_cons])
          have hparse := parse_of_structural htokens hrefused
          exact .inr (.inl ⟨merged, fault, more, rfl, hfaults, hparse⟩)

theorem issues_of_lexical {fault : LexicalFault} (h : tokens text = .error fault) :
    issues text = [fault.issue] := by
  rw [issues, h]

theorem issues_of_tokens (h : tokens text = .ok merged) :
    issues text = (structuralFaults merged).map StructuralFault.issue := by
  rw [issues, h]

theorem head?_issues_of_parse (h : parse text = .error rejection) :
    (issues text).head? = some rejection.issue := by
  rcases report_cases text with
    ⟨fault, htokens, hparse⟩ | ⟨merged, fault, more, htokens, hfaults, hparse⟩ |
    ⟨_, e, -, -, hparse⟩
  · obtain rfl := Except.error.inj (h.symm.trans hparse)
    rw [issues_of_lexical htokens]
    rfl
  · obtain rfl := Except.error.inj (h.symm.trans hparse)
    rw [issues_of_tokens htokens, hfaults]
    rfl
  · cases h.symm.trans hparse

theorem issues_of_parse_ok {e : Expr} (h : parse text = .ok e) : issues text = [] := by
  rcases report_cases text with
    ⟨_, -, hparse⟩ | ⟨_, _, _, -, -, hparse⟩ | ⟨merged, _, htokens, hnone, -⟩
  · cases h.symm.trans hparse
  · cases h.symm.trans hparse
  · rw [issues_of_tokens htokens, hnone]
    rfl

theorem isPrintableText_of_parse (h : parse text = .error rejection) :
    IsPrintableText rejection.issue.message.toList := by
  rcases lexical_or_structural_of_parse h with ⟨fault, rfl⟩ | ⟨fault, rfl⟩
  · exact isPrintableText_lexical fault
  · exact isPrintableText_structural fault

section Tokens

variable {other : String} (h : tokens text = tokens other)

include h

theorem parse_congr : parse text = parse other := by
  rw [parse, parse, h]

theorem evaluate_congr : evaluate text = evaluate other := by
  rw [evaluate, evaluate, parse_congr h]

theorem calculate_congr : calculate text = calculate other := by
  rw [calculate, calculate, parse_congr h]

theorem issues_congr : issues text = issues other := by
  rw [issues, issues, h]

end Tokens

end Calculator
