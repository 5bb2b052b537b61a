import Calculator.Proofs.CommandLine.Agreement
import Calculator.Proofs.Expression.Blank
import Calculator.Proofs.Text.Lines

namespace Calculator.CommandLine

open Text (IsPrintableText IsLineOf openingLines readNewlines isBlankText)

variable {host : Host} {text other : String} {lines : List String} {input : List Char}

/-- What is entered on an input: its lines before the first blank one, without their ends. -/
def enteredLines (input : String) : List String :=
  (openingLines (readNewlines input.toList)).map String.ofList

theorem normalize_of_isLineOf {piece line : List Char} (h : IsLineOf piece line) :
    normalize (String.ofList line) = normalize (String.ofList piece) := by
  rcases h with rfl | rfl
  · rfl
  · have hfeed : isBlankText ['\n'] = true := by decide
    simp only [normalize, String.toList_ofList, normalChars_eq_spaced_words,
      Text.words_append_blanks hfeed]

theorem replAnswer_congr (h : normalize text = normalize other) :
    replAnswer host text = replAnswer host other := by
  have hmerged := (fareAlike_of_normalize h).merged
  rw [replAnswer, replAnswer, evaluateWithin, evaluateWithin, calculateWithin_congr hmerged,
    message_congr h]

/-- A line is answered the same with its end and without it. -/
theorem map_replAnswer_replLines (host : Host) (input : List Char) :
    (replLines input).map (replAnswer host) =
      ((openingLines input).map String.ofList).map (replAnswer host) := by
  have hlines := Text.forall₂_openingLines input
  rw [replLines, List.map_map, List.map_map]
  generalize (Text.lines input).takeWhile (! isBlankText ·) = kept at hlines
  generalize openingLines input = pieces at hlines
  induction hlines with
  | nil => rfl
  | cons hline _ ih =>
      rw [List.map_cons, List.map_cons, ih, Function.comp_apply, Function.comp_apply,
        replAnswer_congr (normalize_of_isLineOf hline)]

theorem run_repl (host : Host) (input : String) :
    run ["repl"] input host =
      { exit := 0
        output := printed (greeting :: (enteredLines input).map (replAnswer host)) } := by
  have harguments : Invocation.ofArguments host.keepsHyphens ["repl"] =
      .ok ⟨.unset, .repl, .unset, false⟩ := rfl
  rw [run_of_ofArguments harguments rfl]
  change replOutcome host _ = _
  rw [replOutcome, map_replAnswer_replLines]
  rfl

theorem replAnswer_cases (host : Host) (line : String) :
    (∃ a, evaluateWithin host.room line = .ok a ∧ evaluate line = .ok a ∧
        replAnswer host line = "Result: " ++ Number.display a) ∨
      (∃ rejection, evaluate line = .error rejection ∧
        replAnswer host line = "Error: " ++ rejection.issue.message) ∨
      ∃ e, evaluateWithin host.room line = .error .tooDeep ∧ parse line = .ok e ∧
        (host.room.building ≤ e.height ∨ host.room.evaluating ≤ e.height) ∧
        replAnswer host line = "Error: " ++ host.notice line := by
  rw [replAnswer]
  cases hvalue : evaluateWithin host.room line with
  | ok a =>
      obtain ⟨c, hcalculated, rfl⟩ := map_eq_ok_iff.mp hvalue
      obtain ⟨e, hparse, rfl⟩ := exists_parse_of_calculateWithin hcalculated
      refine .inl ⟨_, rfl, ?_, rfl⟩
      rw [evaluate, hparse, Expr.calculate_value]
      rfl
  | error halt =>
      have hcalculated := map_eq_error_iff.mp hvalue
      cases halt with
      | rejected rejection =>
          have hparse := parse_of_rejected hcalculated
          exact .inr (.inl ⟨rejection, map_eq_error_iff.mpr hparse, rfl⟩)
      | tooDeep =>
          obtain ⟨e, hparse, hheight⟩ := exists_parse_of_tooDeep hcalculated
          exact .inr (.inr ⟨e, rfl, hparse, hheight, rfl⟩)

theorem isPrintableText_replAnswer (host : Host) (line : String) :
    IsPrintableText (replAnswer host line).toList := by
  rcases replAnswer_cases host line with
    ⟨a, -, -, hanswer⟩ | ⟨rejection, hvalue, hanswer⟩ | ⟨e, -, -, -, hanswer⟩
  · rw [hanswer]
    exact .concat (by decide) (Number.isPrintableText_display a)
  · rw [hanswer]
    exact .concat (by decide) (isPrintableText_of_parse (map_eq_error_iff.mp hvalue))
  · rw [hanswer]
    exact .concat (by decide) (isPrintableText_notice host line)

/-- What is printed in lines is read in lines, if no line has a break within. -/
theorem lines_printed (h : ∀ line ∈ lines, IsPrintableText line.toList) :
    Text.lines (printed lines).toList = lines.map fun line => line.toList ++ ['\n'] := by
  induction lines with
  | nil => rfl
  | cons line rest ih =>
      obtain ⟨hline, hrest⟩ := List.forall_mem_cons.mp h
      have hfeed : "\n".toList = ['\n'] := rfl
      rw [printed_cons, String.toList_append, String.toList_append, hfeed, List.append_assoc,
        List.singleton_append, hline.lines_append, ih hrest, List.map_cons]

theorem isBlankText_of_mem_enteredLines {input line : String} (h : line ∈ enteredLines input) :
    isBlankText line.toList = false := by
  obtain ⟨piece, hpiece, rfl⟩ := List.mem_map.mp h
  rw [String.toList_ofList]
  exact Text.isBlankText_of_mem_openingLines hpiece

theorem notice_ne (host : Host) (line : String) :
    host.notice line ≠ StructuralFault.empty.issue.message :=
  message_ne (prefix_concat List.prefix_rfl (host.detail (normalize line))) (by decide)

theorem replAnswer_ne {line : String} (hfilled : isBlankText line.toList = false) :
    replAnswer host line ≠ "Error: " ++ StructuralFault.empty.issue.message := by
  rcases replAnswer_cases host line with
    ⟨a, -, -, hanswer⟩ | ⟨rejection, hvalue, hanswer⟩ | ⟨e, -, -, -, hanswer⟩
  · rw [hanswer]
    intro h
    have hhead := congrArg (·.toList.head?) h
    simp at hhead
  · rw [hanswer]
    intro h
    have hmessage := message_ne_of_parse (map_eq_error_iff.mp hvalue) hfilled
    exact hmessage ((String.append_right_inj "Error: ").mp h)
  · rw [hanswer]
    intro h
    exact notice_ne host line ((String.append_right_inj "Error: ").mp h)

theorem enteredLines_blank {front blank rest : List Char} {input : String}
    (h : readNewlines input.toList = front ++ (blank ++ '\n' :: rest))
    (hfront : front = [] ∨ ∃ text, front = text ++ ['\n'])
    (hblank : isBlankText blank = true) (hline : '\n' ∉ blank) :
    enteredLines input = enteredLines (String.ofList front) := by
  have hreturn : '\r' ∉ front := by
    intro hmem
    have hread := Text.return_notMem_readNewlines input.toList
    rw [h] at hread
    exact hread (List.mem_append_left _ hmem)
  rw [enteredLines, enteredLines, String.toList_ofList, h, Text.readNewlines_eq_self hreturn,
    Text.openingLines_append_blank hfront hblank hline]

/-- Every input is answered line by line: behind the greeting stands one line for each line that
is entered, and it is the answer to that line alone, its value or why it has none. Answers have no
breaks within, nothing behind a blank line is looked at, and nobody is told of an empty
expression. -/
theorem dialogue_answers_each_line (host : Host) (input : String) :
    run ["repl"] input host =
        { exit := 0
          output := printed (greeting :: (enteredLines input).map (replAnswer host)) } ∧
      Text.lines (run ["repl"] input host).output.toList =
        (greeting :: (enteredLines input).map (replAnswer host)).map
          (fun line => line.toList ++ ['\n']) ∧
      (∀ line ∈ enteredLines input,
        (∃ a, evaluateWithin host.room line = .ok a ∧ evaluate line = .ok a ∧
            replAnswer host line = "Result: " ++ Number.display a) ∨
          (∃ rejection, evaluate line = .error rejection ∧
            replAnswer host line = "Error: " ++ rejection.issue.message) ∨
          ∃ e, evaluateWithin host.room line = .error .tooDeep ∧ parse line = .ok e ∧
            (host.room.building ≤ e.height ∨ host.room.evaluating ≤ e.height) ∧
            replAnswer host line = "Error: " ++ host.notice line) ∧
      (∀ line ∈ enteredLines input,
        IsPrintableText (replAnswer host line).toList ∧
          replAnswer host line ≠ "Error: " ++ StructuralFault.empty.issue.message) ∧
      ∀ front blank rest, readNewlines input.toList = front ++ (blank ++ '\n' :: rest) →
        (front = [] ∨ ∃ text, front = text ++ ['\n']) → isBlankText blank = true → '\n' ∉ blank →
        run ["repl"] input host = run ["repl"] (String.ofList front) host := by
  refine ⟨run_repl host input, ?_, fun line _ => replAnswer_cases host line, ?_, ?_⟩
  · rw [run_repl]
    refine lines_printed (List.forall_mem_cons.mpr ⟨by decide, fun answer hanswer => ?_⟩)
    obtain ⟨line, -, rfl⟩ := List.mem_map.mp hanswer
    exact isPrintableText_replAnswer host line
  · intro line hline
    have hfilled := isBlankText_of_mem_enteredLines hline
    exact ⟨isPrintableText_replAnswer host line, replAnswer_ne hfilled⟩
  · intro front blank rest htext hfront hblank hline
    rw [run_repl, run_repl, enteredLines_blank htext hfront hblank hline]

end Calculator.CommandLine
