import Calculator.Proofs.Rules.Violations

namespace Calculator

/-- All issues of a list of texts. -/
def structuralIssues (texts : List String) : List Issue :=
  (structuralFaults (texts.map Token.ofText)).map StructuralFault.issue

theorem forall₂_filterMap {α β γ : Type} {R : β → γ → Prop} {f : α → Option β} {g : α → Option γ}
    (h : ∀ a, Option.Rel R (f a) (g a)) (l : List α) :
    List.Forall₂ R (l.filterMap f) (l.filterMap g) := by
  induction l with
  | nil => exact .nil
  | cons a l ih =>
      have hrel := h a
      rw [List.filterMap_cons, List.filterMap_cons]
      generalize f a = b at hrel ⊢
      generalize g a = c at hrel ⊢
      cases hrel with
      | some hbc => exact .cons hbc ih
      | none => exact ih

theorem Rule.mem_all (rule : Rule) : rule ∈ notEmpty :: inOrder := by
  cases rule <;> decide

variable {texts : List String} {tokens : List Token} {rule : Rule} {code : Code}
  {position : Option Nat} {fault : StructuralFault} {issue : Issue}

theorem structuralFaults_eq_filterMap (tokens : List Token) :
    structuralFaults tokens = (Rule.notEmpty :: Rule.inOrder).filterMap (Rule.fault? tokens) := by
  cases tokens with
  | nil => decide
  | cons t tokens => rfl

theorem mem_structuralFaults :
    fault ∈ structuralFaults tokens ↔ ∃ rule : Rule, rule.fault? tokens = some fault := by
  rw [structuralFaults_eq_filterMap, List.mem_filterMap]
  constructor
  · rintro ⟨rule, -, hfault⟩
    exact ⟨rule, hfault⟩
  · rintro ⟨rule, hfault⟩
    exact ⟨rule, rule.mem_all, hfault⟩

/-- No rule is asked about a token that is not there. -/
theorem askAll_eq_ok (tokens : List Token) : askAll tokens = .ok (structuralFaults tokens) := by
  cases tokens with
  | nil => decide
  | cons t tokens =>
      have hask : Rule.ask (t :: tokens) = fun rule => pure (rule.fault? (t :: tokens)) := by
        funext rule
        exact ask_eq_ok (List.cons_ne_nil t tokens) rule
      rw [askAll, hask, List.mapM_pure]
      change Except.ok ((none :: Rule.inOrder.map (Rule.fault? (t :: tokens))).filterMap id) = _
      rw [List.filterMap_cons_none rfl, List.filterMap_map]
      rfl

theorem firstViolation_of_fault? (h : rule.fault? tokens = some fault) :
    FirstViolation tokens rule fault.issue.code fault.issue.position ∧
      Shows (tokens.map Token.text) fault.issue := by
  have hjudged := judged_fault? tokens rule
  rw [h] at hjudged
  cases hjudged with
  | broken first shows => exact ⟨first, shows⟩

theorem exists_fault_of_violation (h : Violation tokens rule code position) :
    ∃ fault, rule.fault? tokens = some fault := by
  have hjudged := judged_fault? tokens rule
  cases hfound : rule.fault? tokens with
  | some fault => exact ⟨fault, rfl⟩
  | none =>
      rw [hfound] at hjudged
      cases hjudged with
      | kept hkept => exact absurd h (hkept code position)

theorem FirstViolation.unique {other : Code} {place : Option Nat}
    (h : FirstViolation tokens rule code position)
    (hother : FirstViolation tokens rule other place) :
    other = code ∧ place = position := by
  have hplace : place = position := by
    cases position with
    | some p =>
        obtain ⟨q, rfl, hqp, -⟩ := hother.first code p h.violation
        obtain ⟨r, hr, hpq, -⟩ := h.first other q hother.violation
        obtain rfl := Option.some.inj hr
        rw [Nat.le_antisymm hqp hpq]
    | none =>
        cases place with
        | some q =>
            obtain ⟨r, hr, -⟩ := h.first other q hother.violation
            cases hr
        | none => rfl
  exact ⟨h.violation.code_unique hother.violation hplace, hplace⟩

theorem Violation.eq_parenthesesBalance
    (h : Violation tokens rule .unbalancedParentheses position) : rule = .parenthesesBalance := by
  cases h with
  | unopened _ => rfl
  | unequal _ => rfl
  | pair _ _ h => cases h

theorem Violation.eq_nil (h : Violation tokens rule .emptyExpression position) : tokens = [] := by
  cases h with
  | empty h => exact h
  | pair _ _ h => cases h

theorem violation_of_mem (h : issue ∈ structuralIssues texts) :
    ∃ rule, FirstViolation (texts.map Token.ofText) rule issue.code issue.position := by
  obtain ⟨fault, hfault, rfl⟩ := List.mem_map.mp h
  obtain ⟨rule, hrule⟩ := mem_structuralFaults.mp hfault
  exact ⟨rule, (firstViolation_of_fault? hrule).1⟩

theorem exists_mem_of_firstViolation
    (h : FirstViolation (texts.map Token.ofText) rule code position) :
    ∃ issue ∈ structuralIssues texts, issue.code = code ∧ issue.position = position := by
  obtain ⟨fault, hfault⟩ := exists_fault_of_violation h.violation
  obtain ⟨hcode, hposition⟩ := h.unique (firstViolation_of_fault? hfault).1
  exact ⟨fault.issue, List.mem_map_of_mem (mem_structuralFaults.mpr ⟨rule, hfault⟩), hcode,
    hposition⟩

/-- One entry for each rule that is broken, in the order of the rules. -/
theorem exists_broken (texts : List String) :
    ∃ broken : List Rule, broken.Sublist (Rule.notEmpty :: Rule.inOrder) ∧
      (∀ rule, rule ∈ broken ↔
        ∃ code position, Violation (texts.map Token.ofText) rule code position) ∧
      List.Forall₂ (fun rule issue =>
        FirstViolation (texts.map Token.ofText) rule issue.code issue.position ∧ Shows texts issue)
        broken (structuralIssues texts) := by
  refine ⟨(Rule.notEmpty :: Rule.inOrder).filter fun rule =>
    (rule.fault? (texts.map Token.ofText)).isSome, List.filter_sublist, ?_, ?_⟩
  · intro rule
    rw [List.mem_filter, Option.isSome_iff_exists]
    constructor
    · rintro ⟨-, fault, hfault⟩
      exact ⟨_, _, (firstViolation_of_fault? hfault).1.violation⟩
    · rintro ⟨code, position, h⟩
      exact ⟨rule.mem_all, exists_fault_of_violation h⟩
  · rw [structuralIssues, structuralFaults_eq_filterMap, List.forall₂_map_right_iff,
      ← List.filterMap_eq_filter]
    apply forall₂_filterMap
    intro rule
    cases hfault : rule.fault? (texts.map Token.ofText) with
    | none =>
        simp only [Option.guard, hfault, Option.isSome_none]
        exact .none
    | some fault =>
        have hfirst := firstViolation_of_fault? hfault
        rw [Token.map_text_ofText] at hfirst
        simp only [Option.guard, hfault, Option.isSome_some]
        exact .some hfirst

theorem exists_unbalanced_iff (texts : List String) (position : Option Nat) :
    (∃ issue ∈ structuralIssues texts,
        issue.code = .unbalancedParentheses ∧ issue.position = position) ↔
      FirstViolation (texts.map Token.ofText) .parenthesesBalance .unbalancedParentheses
        position := by
  constructor
  · rintro ⟨issue, hissue, hcode, rfl⟩
    obtain ⟨rule, hfirst⟩ := violation_of_mem hissue
    rw [hcode] at hfirst
    obtain rfl := hfirst.violation.eq_parenthesesBalance
    exact hfirst
  · intro h
    exact exists_mem_of_firstViolation h

theorem emptyExpression_mem_iff (texts : List String) :
    .emptyExpression ∈ (structuralIssues texts).map Issue.code ↔ texts = [] := by
  constructor
  · intro h
    obtain ⟨issue, hissue, hcode⟩ := List.mem_map.mp h
    obtain ⟨rule, hfirst⟩ := violation_of_mem hissue
    rw [hcode] at hfirst
    exact List.map_eq_nil_iff.mp hfirst.violation.eq_nil
  · rintro rfl
    decide

theorem codes_eq_emptyExpression_iff (texts : List String) :
    (structuralIssues texts).map Issue.code = [.emptyExpression] ↔ texts = [] := by
  constructor
  · intro h
    apply (emptyExpression_mem_iff texts).mp
    rw [h]
    exact List.mem_singleton_self _
  · rintro rfl
    decide

/-- What is reported of a list of arbitrary texts. There is always a report. It has one entry for
each rule that is broken, in the order of the rules, with the first violation and the text at its
place; of an empty list nothing else is said than that it is empty, and parentheses are out of
balance where the first one closes what is not open, or nowhere if only their numbers differ.
Validation takes the texts as they are if there is nothing to report, and otherwise refuses them
for the first entry. -/
theorem report_of_first_violations (texts : List String) :
    askAll (texts.map Token.ofText) = .ok (structuralFaults (texts.map Token.ofText)) ∧
      (∃ broken : List Rule, broken.Sublist (Rule.notEmpty :: Rule.inOrder) ∧
        (∀ rule, rule ∈ broken ↔
          ∃ code position, Violation (texts.map Token.ofText) rule code position) ∧
        List.Forall₂ (fun rule issue =>
          FirstViolation (texts.map Token.ofText) rule issue.code issue.position ∧
            Shows texts issue) broken (structuralIssues texts)) ∧
      ((structuralIssues texts).map Issue.code = [.emptyExpression] ↔ texts = []) ∧
      (.emptyExpression ∈ (structuralIssues texts).map Issue.code ↔ texts = []) ∧
      (∀ p, (∃ issue ∈ structuralIssues texts,
          issue.code = .unbalancedParentheses ∧ issue.position = some p) ↔
        Overclosed 0 (texts.map Token.ofText) p ∧
          ∀ q < p, ¬ Overclosed 0 (texts.map Token.ofText) q) ∧
      ((∃ issue ∈ structuralIssues texts,
          issue.code = .unbalancedParentheses ∧ issue.position = none) ↔
        (∀ q, ¬ Overclosed 0 (texts.map Token.ofText) q) ∧
          (texts.map Token.ofText).count .opening ≠ (texts.map Token.ofText).count .closing) ∧
      (structuralIssues texts = [] →
        (validate (texts.map Token.ofText)).map (·.map Token.text) = .ok texts) ∧
      ∀ first more, structuralIssues texts = first :: more →
        ∃ fault, validate (texts.map Token.ofText) = .error fault ∧ fault.issue = first := by
  refine ⟨askAll_eq_ok _, exists_broken texts, codes_eq_emptyExpression_iff texts,
    emptyExpression_mem_iff texts, ?_, ?_, ?_, ?_⟩
  · intro p
    rw [exists_unbalanced_iff, firstViolation_unopened_iff]
  · rw [exists_unbalanced_iff, firstViolation_unequal_iff]
  · intro hnone
    have haccepted := validate_eq_ok_iff_structuralFaults.mpr (List.map_eq_nil_iff.mp hnone)
    rw [haccepted]
    exact congrArg Except.ok (Token.map_text_ofText texts)
  · intro first more hissues
    obtain ⟨fault, rest, hfaults, rfl, -⟩ := List.map_eq_cons_iff.mp hissues
    refine ⟨fault, validate_eq_error_iff.mpr ?_, rfl⟩
    rw [hfaults, List.head?_cons]

end Calculator
