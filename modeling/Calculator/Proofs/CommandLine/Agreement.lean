import Calculator.CommandLine.Run
import Calculator.Proofs.CommandLine.Arguments
import Calculator.Proofs.Expression.Depth
import Calculator.Proofs.Expression.Evaluation
import Calculator.Proofs.Expression.NormalForm
import Calculator.Proofs.Expression.Reports
import Calculator.Proofs.Number.Display
import Calculator.Proofs.Text.Words

namespace Calculator.CommandLine

open Text (IsPrintableText)

variable {host : Host} {text other : String} {rejection : Rejection} {e : Expr}

theorem message_congr (h : normalize text = normalize other) :
    host.message text = host.message other := by
  have hnotice : host.notice text = host.notice other :=
    congrArg (fun normal => "maximum recursion depth exceeded" ++ host.detail normal) h
  funext halt
  cases halt with
  | rejected rejection => rfl
  | tooDeep => exact hnotice

namespace Inquiry

/-- What a command prints about a text. -/
def outcome (host : Host) : Inquiry → String → Outcome
  | eval steps, text => evalOutcome host steps text
  | tokens, text => tokensOutcome text
  | check, text => checkOutcome text

theorem outcome_congr (h : normalize text = normalize other) (q : Inquiry) :
    q.outcome host text = q.outcome host other := by
  have hmerged := (fareAlike_of_normalize h).merged
  cases q with
  | eval steps =>
      rw [outcome, outcome, evalOutcome, evalOutcome, calculateWithin_congr hmerged,
        message_congr h]
  | tokens => rw [outcome, outcome, tokensOutcome, tokensOutcome, hmerged]
  | check => rw [outcome, outcome, checkOutcome, checkOutcome, issues_congr hmerged]

theorem outcome_unset (q : Inquiry) (input : List Char) :
    (Invocation.mk .unset q.command .unset q.steps).outcome host input =
      q.outcome host (String.ofList input) := by
  cases q <;> simp only [Invocation.outcome, Invocation.expression?, command, steps, outcome]

theorem outcome_value (q : Inquiry) (text : String) (input : List Char) :
    (Invocation.mk .unset q.command (.value text) q.steps).outcome host input =
      q.outcome host text := by
  cases q <;> simp only [Invocation.outcome, Invocation.expression?, command, steps, outcome]

end Inquiry

theorem run_of_ofArguments {arguments : List String} {invocation : Invocation}
    (h : Invocation.ofArguments host.keepsHyphens arguments = .ok invocation)
    (hlevel : invocation.level = .unset) (input : String) :
    run arguments input host = invocation.outcome host (Text.readNewlines input.toList) := by
  have hname : levelName invocation.level = "INFO" := by
    rw [hlevel]
    rfl
  have hknown : (!isLevel "INFO") = false := by decide
  have hquiet : showsEvents "INFO" = false := by decide
  rw [run, h]
  simp only [hname, hknown, hquiet, Bool.false_eq_true, if_false]

namespace Inquiry

theorem run_arguments (q : Inquiry) (text : String) :
    run q.arguments text host = q.outcome host text := by
  rw [run_of_ofArguments (q.ofArguments_arguments host.keepsHyphens) rfl, outcome_unset]
  refine outcome_congr ?_ q
  rw [normalize, normalize, String.toList_ofList, normalChars_readNewlines]

theorem run_text (q : Inquiry) (h : host.keepsHyphens = true ∨ text ≠ "--") (input : String) :
    run (q.arguments ++ [textArgument text]) input host = q.outcome host text := by
  have hgiven : givenText host.keepsHyphens text = .value text := by
    refine if_neg ?_
    rintro ⟨htext, hdropped⟩
    rcases h with hkept | hother
    · rw [hkept] at hdropped
      cases hdropped
    · exact hother htext
  rw [run_of_ofArguments (q.ofArguments_text host.keepsHyphens text) rfl, hgiven, outcome_value]

end Inquiry

theorem printed_cons (line : String) (rest : List String) :
    printed (line :: rest) = line ++ "\n" ++ printed rest := by
  rw [printed, List.map_cons, String.join_cons, printed]

theorem printed_singleton (line : String) : printed [line] = line ++ "\n" := by
  rw [printed_cons, printed, List.map_nil, String.join_nil, String.append_empty]

theorem evalOutcome_of_ok (h : calculateWithin host.room text = .ok e.calculate) (steps : Bool) :
    ∃ rest, evalOutcome host steps text =
      { exit := 0, output := "Result: " ++ Number.display e.evaluate ++ "\n" ++ rest } := by
  refine ⟨printed (if steps then (stepsTable e.calculate.lines).lines else []), ?_⟩
  rw [evalOutcome, h, ← Expr.calculate_value]
  simp only [printed_cons]
  rfl

theorem evalOutcome_of_error {halt : Halt} (h : calculateWithin host.room text = .error halt)
    (steps : Bool) :
    evalOutcome host steps text =
      { exit := 1, errors := errorLine halt.code? (host.message text halt) } := by
  rw [evalOutcome, h]

theorem checkOutcome_of_ok (h : parse text = .ok e) :
    checkOutcome text = { exit := 0, output := "OK: no issues found.\n" } := by
  rw [checkOutcome, issues_of_parse_ok h]
  simp only [printed_singleton]
  rfl

theorem checkOutcome_of_cons {issue : Issue} {more : List Issue} (h : issues text = issue :: more) :
    checkOutcome text = { exit := 1, output := printed (issuesTable (issue :: more)).lines } := by
  rw [checkOutcome, h]

theorem exit_tokensOutcome :
    (tokensOutcome text).exit = 1 ↔ ∃ fault, parse text = .error (.lexical fault) := by
  rcases report_cases text with
    ⟨fault, htokens, hparse⟩ | ⟨merged, fault, more, htokens, hfaults, hparse⟩ |
    ⟨merged, e, htokens, hnone, hparse⟩
  · rw [tokensOutcome, htokens]
    exact ⟨fun _ => ⟨fault, hparse⟩, fun _ => rfl⟩
  · rw [tokensOutcome, htokens, hparse]
    cases merged <;> simp
  · rw [tokensOutcome, htokens, hparse]
    cases merged <;> simp

theorem isPrintableText_notice (host : Host) (text : String) :
    IsPrintableText (host.notice text).toList :=
  .concat (by decide) (host.isPrintableText_detail _)

theorem length_lines_of_printable {line : String} (h : IsPrintableText line.toList) :
    (Text.lines (line ++ "\n").toList).length = 1 := by
  have hone := congrArg List.length (h.lines_append [])
  rwa [← String.toList_singleton, ← String.toList_append] at hone

theorem length_lines_errorLine {message : String} (code : Option Code)
    (h : IsPrintableText message.toList) :
    (Text.lines (errorLine code message).toList).length = 1 := by
  cases code with
  | none => exact length_lines_of_printable (.concat (by decide) h)
  | some code =>
      have hcode : IsPrintableText code.text.toList := by
        cases code <;> decide
      exact length_lines_of_printable (.concat (.concat (.concat (by decide) hcode) (by decide)) h)

theorem head?_lines_output (h : calculateWithin host.room text = .ok e.calculate) (steps : Bool) :
    (Text.lines (evalOutcome host steps text).output.toList).head? =
      some ("Result: " ++ Number.display e.evaluate ++ "\n").toList := by
  have hline : IsPrintableText ("Result: " ++ Number.display e.evaluate).toList :=
    .concat (by decide) (Number.isPrintableText_display e.evaluate)
  obtain ⟨rest, hrest⟩ := evalOutcome_of_ok h steps
  have houtput : ("Result: " ++ Number.display e.evaluate ++ "\n" ++ rest).toList =
      ("Result: " ++ Number.display e.evaluate).toList ++ '\n' :: rest.toList := by
    rw [String.toList_append, String.toList_append, List.append_assoc]
    rfl
  rw [hrest, houtput, hline.lines_append, List.head?_cons]
  simp

theorem exit_evalOutcome (steps : Bool) :
    (evalOutcome host steps text).exit = 0 ↔ ∃ a, evaluateWithin host.room text = .ok a := by
  rw [evaluateWithin]
  cases hcalculated : calculateWithin host.room text with
  | error halt =>
      rw [evalOutcome_of_error hcalculated]
      simp [Except.map]
  | ok c =>
      obtain ⟨e, -, rfl⟩ := exists_parse_of_calculateWithin hcalculated
      obtain ⟨rest, hrest⟩ := evalOutcome_of_ok hcalculated steps
      rw [hrest]
      simp [Except.map]

theorem exit_checkOutcome : (checkOutcome text).exit = 0 ↔ ∃ e, parse text = .ok e := by
  cases hparse : parse text with
  | ok e => simp [checkOutcome_of_ok hparse]
  | error rejection =>
      obtain ⟨more, hissues⟩ := List.head?_eq_some_iff.mp (head?_issues_of_parse hparse)
      simp [checkOutcome_of_cons hissues]

/-- The commands agree on a text, and it is the same whether the text is given as an argument or
is the input: it is evaluated if nothing is found at fault in it and there is room for its tree;
otherwise the evaluation reports on one line the first fault that is found, or that there is no
room. Two hyphens can only be given as an argument where they are kept. -/
theorem commands_agree (host : Host) (text : String) :
    (∀ q : Inquiry, host.keepsHyphens = true ∨ text ≠ "--" → ∀ input,
        run (q.arguments ++ ["--text=" ++ text]) input host = run q.arguments text host) ∧
      (∀ steps, (run (Inquiry.eval steps).arguments text host).exit = 0 ↔
        ∃ a, evaluateWithin host.room text = .ok a) ∧
      ((run Inquiry.check.arguments text host).exit = 0 ↔ ∃ a, evaluate text = .ok a) ∧
      (∀ a, evaluateWithin host.room text = .ok a → evaluate text = .ok a ∧
        (∀ steps,
          (Text.lines (run (Inquiry.eval steps).arguments text host).output.toList).head? =
            some ("Result: " ++ Number.display a ++ "\n").toList) ∧
        run Inquiry.check.arguments text host = { exit := 0, output := "OK: no issues found.\n" }) ∧
      (∀ rejection, evaluate text = .error rejection → ∃ issue more,
        evaluateWithin host.room text = .error (.rejected rejection) ∧
          issues text = issue :: more ∧
          (∀ steps,
            run (Inquiry.eval steps).arguments text host =
                { exit := 1, errors := s!"Error: [{issue.code.text}] {issue.message}\n" } ∧
              (Text.lines
                (run (Inquiry.eval steps).arguments text host).errors.toList).length = 1) ∧
          run Inquiry.check.arguments text host =
            { exit := 1, output := printed (issuesTable (issue :: more)).lines }) ∧
      (evaluateWithin host.room text = .error .tooDeep →
        (∃ e, parse text = .ok e ∧
          (host.room.building ≤ e.height ∨ host.room.evaluating ≤ e.height)) ∧
        (∀ steps,
          run (Inquiry.eval steps).arguments text host =
              { exit := 1, errors := s!"Error: {host.notice text}\n" } ∧
            (Text.lines (run (Inquiry.eval steps).arguments text host).errors.toList).length = 1) ∧
        run Inquiry.check.arguments text host = { exit := 0, output := "OK: no issues found.\n" }) ∧
      ((run Inquiry.tokens.arguments text host).exit = 1 ↔
        ∃ fault, evaluate text = .error (.lexical fault)) := by
  simp only [Inquiry.run_arguments, Inquiry.outcome]
  refine ⟨fun q htext input => q.run_text htext input, exit_evalOutcome,
    exit_checkOutcome.trans exists_parse_iff_exists_evaluate, ?_, ?_, ?_, ?_⟩
  · intro a hvalue
    obtain ⟨c, hcalculated, rfl⟩ := map_eq_ok_iff.mp hvalue
    obtain ⟨e, hparse, rfl⟩ := exists_parse_of_calculateWithin hcalculated
    rw [Expr.calculate_value]
    refine ⟨?_, head?_lines_output hcalculated, checkOutcome_of_ok hparse⟩
    rw [evaluate, hparse]
    rfl
  · intro rejection hvalue
    have hparse := map_eq_error_iff.mp hvalue
    have hcalculated := calculateWithin_of_error hparse host.room
    obtain ⟨more, hissues⟩ := List.head?_eq_some_iff.mp (head?_issues_of_parse hparse)
    refine ⟨rejection.issue, more, map_eq_error_iff.mpr hcalculated, hissues, fun steps => ?_,
      checkOutcome_of_cons hissues⟩
    rw [evalOutcome_of_error hcalculated]
    exact ⟨rfl, length_lines_errorLine _ (isPrintableText_of_parse hparse)⟩
  · intro hvalue
    have hcalculated := map_eq_error_iff.mp hvalue
    obtain ⟨e, hparse, hheight⟩ := exists_parse_of_tooDeep hcalculated
    refine ⟨⟨e, hparse, hheight⟩, fun steps => ?_, checkOutcome_of_ok hparse⟩
    rw [evalOutcome_of_error hcalculated]
    exact ⟨rfl, length_lines_errorLine none (isPrintableText_notice host text)⟩
  · simp only [exit_tokensOutcome, evaluate, map_eq_error_iff]

/-- Nothing is at fault in a nested sum, but there is no room to evaluate it. -/
theorem commands_differ_on_nested_sum :
    (run Inquiry.check.arguments (nestedSum 1999) .usual).exit = 0 ∧
      (run (Inquiry.eval false).arguments (nestedSum 1999) .usual).exit = 1 := by
  have hroom : Host.usual.room.building < 1999 := by decide
  simp only [Inquiry.run_arguments, Inquiry.outcome]
  constructor
  · rw [checkOutcome_of_ok (parse_nestedSum 1999)]
  · rw [evalOutcome_of_error (calculateWithin_nestedSum hroom)]

end Calculator.CommandLine
