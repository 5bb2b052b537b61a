import Calculator.Proofs.Expr.Splitting
import Calculator.Proofs.Token.Texts

namespace Calculator

open Text (quotedList)

/-- The fault of a span that is neither a group nor split into spans. -/
def BuildFault.ofSpan (span : List Token) (position : Nat) : BuildFault :=
  if span.length ≤ 3 then .malformed span position else .noOperator span position

namespace Expr

variable {position : Nat} {span inner : List Token} {fault : BuildFault} {e : Expr}

/-- That a span itself is at fault, and not a span inside it. -/
def IsStuck (span : List Token) : Prop :=
  ∀ position, ofSpan position span = .error (.ofSpan span position)

/-- That a fault is about a span in a list that begins at a position. -/
def Blames (position : Nat) (list : List Token) (fault : BuildFault) : Prop :=
  ∃ before span after, before ++ span ++ after = list ∧ IsStuck span ∧
    fault = .ofSpan span (position + before.length)

theorem IsStuck.blames (h : IsStuck span) (position : Nat) :
    Blames position span (.ofSpan span position) :=
  ⟨[], span, [], List.append_nil span, h, rfl⟩

theorem Blames.around (before after : List Token)
    (h : Blames (position + before.length) inner fault) :
    Blames position (before ++ inner ++ after) fault := by
  obtain ⟨front, span, back, rfl, hstuck, rfl⟩ := h
  refine ⟨before ++ front, span, back ++ after, ?_, hstuck, ?_⟩
  · simp only [List.append_assoc]
  · rw [List.length_append, Nat.add_assoc]

theorem simple_eq_error (h : simple position span = .error fault) :
    ∀ other, simple other span = .error (.malformed span other) := by
  intro other
  rw [simple.eq_def] at h ⊢
  split at h
  iterate 4 cases h
  rfl

theorem isStuck_of_simple (hinner : Token.interior? span = none) (hshort : span.length ≤ 3)
    (h : simple position span = .error fault) : IsStuck span := by
  intro other
  rw [ofSpan.eq_def]
  split
  next inner hsome => exact absurd (hinner.symm.trans hsome) (Option.some_ne_none inner).symm
  next => rw [if_pos hshort, simple_eq_error h, BuildFault.ofSpan, if_pos hshort]

theorem isStuck_of_main? (hinner : Token.interior? span = none) (hlong : ¬ span.length ≤ 3)
    (hsigned : signedGroup? span = none) (hmain : Split.main? span = none) : IsStuck span := by
  intro other
  rw [ofSpan.eq_def]
  split
  next inner hsome => exact absurd (hinner.symm.trans hsome) (Option.some_ne_none inner).symm
  next =>
    rw [if_neg hlong]
    split
    next s group hsome => exact absurd (hsigned.symm.trans hsome) (Option.some_ne_none _).symm
    next =>
      split
      next => rw [BuildFault.ofSpan, if_neg hlong]
      next split hsome => exact absurd (hmain.symm.trans hsome) (Option.some_ne_none _).symm

/-- Every fault is about a span of the list that has it by itself. -/
theorem blames_of_ofSpan (h : ofSpan position span = .error fault) :
    Blames position span fault := by
  fun_induction ofSpan position span with
  | case1 position span inner hinner ih =>
      obtain ⟨rfl, -⟩ := (Token.interior?_eq_some_iff span inner).mp hinner
      exact (ih h).around [.opening] [.closing]
  | case2 position span hinner hshort =>
      have hstuck := isStuck_of_simple hinner hshort h
      rw [simple_eq_error h, Except.error.injEq] at h
      rw [← h]
      simpa [BuildFault.ofSpan, hshort] using hstuck.blames position
  | case3 position span hinner hlong s group hsigned ih =>
      obtain ⟨rfl, -⟩ := (signedGroup?_eq_some_iff s).mp hsigned
      rcases bind_eq_error_iff.mp h with hgroup | ⟨a, -, hnone⟩
      · simpa using (ih hgroup).around [.sign s] []
      · cases hnone
  | case4 position span hinner hlong hsigned hmain =>
      have hstuck := isStuck_of_main? hinner hlong hsigned hmain
      cases h
      simpa [BuildFault.ofSpan, hlong] using hstuck.blames position
  | case5 position span hinner hlong hsigned split hmain ihl ihr =>
      rw [← Split.span_of_main? hmain, Split.span]
      rcases bind_eq_error_iff.mp h with hleft | ⟨l, -, hrest⟩
      · exact (ihl hleft).around [] (split.operator.token :: split.right)
      · rcases bind_eq_error_iff.mp hrest with hright | ⟨r, -, hnone⟩
        · have hbehind : Blames
              (position + (split.left ++ [split.operator.token]).length) split.right fault := by
            simpa [Nat.add_assoc] using ihr hright
          simpa using hbehind.around (split.left ++ [split.operator.token]) []
        · cases hnone

/-- The issue of a span of texts that itself is at fault. -/
def stuckIssue (span : List String) (position : Nat) : Issue :=
  let joined := " ".intercalate span
  if span.length ≤ 3 then
    ⟨.malformedOperand, "Invalid simple expression structure: " ++ quotedList span,
      if joined = "" then none else some joined, some position⟩
  else ⟨.missingOperator, "Operator is missing in " ++ quotedList span, none, some position⟩

theorem issue_ofSpan (texts : List String) (position : Nat) :
    (BuildFault.ofSpan (texts.map Token.ofText) position).issue = stuckIssue texts position := by
  rw [BuildFault.ofSpan, stuckIssue, List.length_map]
  split
  · simp only [BuildFault.issue, shownSpan, Token.joined, Token.map_text_ofText]
    rfl
  · simp only [BuildFault.issue, shownSpan, Token.map_text_ofText]
    rfl

/-- Texts in a list that have no tree hold a span that is to blame: the issue names its place,
shows its texts, and is the issue of a malformed operand if there are at most three of them and of
a missing operator otherwise. The span by itself has no tree either, for the same reason. -/
theorem fault_is_in_span (texts : List String) (fault : BuildFault)
    (h : ofTokens (texts.map Token.ofText) = .error fault) :
    ∃ before span after, before ++ span ++ after = texts ∧
      fault.issue = stuckIssue span before.length ∧
      (fault.issue.code = .malformedOperand ↔ span.length ≤ 3) ∧
      (fault.issue.code = .missingOperator ↔ 4 ≤ span.length) ∧
      ∃ alone, ofTokens (span.map Token.ofText) = .error alone ∧
        alone.issue = { fault.issue with position := some 0 } := by
  obtain ⟨front, middle, back, hlist, hstuck, rfl⟩ := blames_of_ofSpan h
  obtain ⟨shown, after, rfl, hshown, rfl⟩ := List.map_eq_append_iff.mp hlist.symm
  obtain ⟨before, span, rfl, rfl, rfl⟩ := List.map_eq_append_iff.mp hshown
  rw [List.length_map, Nat.zero_add, issue_ofSpan]
  refine ⟨before, span, after, rfl, rfl, ?_, ?_, _, hstuck 0, ?_⟩
  · rw [stuckIssue]
    split
    next hshort => exact ⟨fun _ => hshort, fun _ => rfl⟩
    next hlong => exact ⟨nofun, fun hshort => absurd hshort hlong⟩
  · rw [stuckIssue]
    split
    next hshort => exact ⟨nofun, fun hlong => absurd hshort (Nat.not_le_of_lt hlong)⟩
    next hlong => exact ⟨fun _ => Nat.lt_of_not_le hlong, fun _ => rfl⟩
  · rw [issue_ofSpan, stuckIssue, stuckIssue]
    split
    · rfl
    · rfl

theorem fault_is_in_inner_span :
    ∃ fault, ofTokens (["1", "*", "(", "(", "2", "(", ")", "4", ")", ")"].map Token.ofText) =
        .error fault ∧
      fault.issue.position = some 4 ∧
      ∃ before span after, before ++ span ++ after =
          ["1", "*", "(", "(", "2", "(", ")", "4", ")", ")"] ∧
        fault.issue = stuckIssue span before.length := by
  have h : ofTokens (["1", "*", "(", "(", "2", "(", ")", "4", ")", ")"].map Token.ofText) =
      .error (.noOperator (["2", "(", ")", "4"].map Token.ofText) 4) := by
    decide +kernel
  obtain ⟨before, span, after, hlist, hissue, -⟩ := fault_is_in_span _ _ h
  exact ⟨_, h, rfl, before, span, after, hlist, hissue⟩

end Expr

end Calculator
