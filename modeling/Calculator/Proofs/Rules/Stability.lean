import Calculator.Proofs.Rules.Diagnosis
import Calculator.Proofs.Token.Places

namespace Calculator

open Token

variable {tokens : List Token} {rule : Rule} {code : Code} {position : Option Nat}
  {a b u v : Token} {p q : Nat}

theorem Token.SameKind.leading (h : SameKind a u) (ha : a = .closing ∨ ∃ s, a = .scale s) :
    u = .closing ∨ ∃ s, u = .scale s := by
  rcases ha with rfl | ⟨s, rfl⟩
  · exact .inl (h.eq_of_isSign_eq_false rfl)
  · exact .inr ⟨s, h.eq_of_isSign_eq_false rfl⟩

theorem Token.SameKind.trailing (h : SameKind a u)
    (ha : a = .opening ∨ ∃ o : Operator, a = o.token) :
    u = .opening ∨ ∃ o : Operator, u = o.token := by
  rcases ha with rfl | hoperator
  · exact .inl (h.eq_of_isSign_eq_false rfl)
  · right
    rw [← isOperator_iff] at hoperator ⊢
    rwa [h.isOperator_eq]

theorem BreaksPair.isSign_next (h : BreaksPair rule code a b) : b.isSign = false := by
  cases h with
  | afterOpening _ sign _ =>
      rw [Bool.eq_false_iff, ne_eq, isSign_iff]
      rintro ⟨s, rfl⟩
      exact sign s rfl
  | emptyGroup | adjacentNumbers _ _ | closingBeforeOpening | numberBeforeOpening _
  | afterClosing _ | beforeClosing _ | operatorSequence _ _ => rfl

/-- A sign that is the earlier one is at fault as any operator is. -/
theorem BreaksPair.of_sameKind (h : BreaksPair rule code a b) (ha : SameKind a u)
    (hb : SameKind b v) : BreaksPair rule code u v := by
  obtain rfl := hb.eq_of_isSign_eq_false h.isSign_next
  rcases ha with rfl | ⟨ha, hu⟩
  · exact h
  · obtain ⟨s, rfl⟩ := isSign_iff.mp hu
    cases h with
    | beforeClosing _ => exact .beforeClosing (.additive s)
    | operatorSequence _ t => exact .operatorSequence (.additive s) t
    | emptyGroup | adjacentNumbers _ _ | afterOpening _ _ _ | closingBeforeOpening
    | numberBeforeOpening _ | afterClosing _ => cases ha

theorem overclosed_mergeSigns_iff (h : p < tokens.length) :
    Overclosed 0 (mergeSigns tokens) (mergedPlace tokens p) ↔ Overclosed 0 tokens p := by
  rw [Overclosed, Overclosed, count_take_mergeSigns rfl h, count_take_mergeSigns rfl h]
  simp [h, mergedPlace_lt_length h]

theorem mergedPlace_place (h : mergedPlace tokens (p + 1) = mergedPlace tokens p + 1) :
    mergedPlace tokens (rule.place p) = rule.place (mergedPlace tokens p) := by
  rw [Rule.place, Rule.place]
  split
  · rfl
  · exact h

/-- A violation goes along with its token. -/
theorem Violation.mergeSigns (h : Violation tokens rule code position) :
    Violation (mergeSigns tokens) rule code (position.map (mergedPlace tokens)) := by
  cases h with
  | empty h => exact .empty (mergeSigns_eq_nil_iff.mpr h)
  | leading first h =>
      obtain ⟨u, hu, hkind⟩ := getElem?_mergeSigns first
      exact .leading hu (hkind.leading h)
  | trailing last length h =>
      obtain ⟨u, hu, hkind⟩ := getElem?_mergeSigns last
      refine .trailing hu ?_ (hkind.trailing h)
      cases tokens with
      | nil => cases length
      | cons t rest =>
          rw [List.length_cons] at length
          rw [length_mergeSigns, Nat.succ.inj length]
  | unopened h => exact .unopened ((overclosed_mergeSigns_iff h.1).mpr h)
  | unequal h =>
      refine .unequal ?_
      rwa [count_mergeSigns rfl, count_mergeSigns rfl]
  | pair previous next h =>
      obtain ⟨u, hu, hprevious⟩ := getElem?_mergeSigns previous
      obtain ⟨v, hv, hnext⟩ := getElem?_mergeSigns next
      have hstep := mergedPlace_succ previous next fun hsigns => by
        rw [h.isSign_next] at hsigns
        cases hsigns.2
      rw [hstep] at hv
      rw [Option.map_some, mergedPlace_place hstep]
      exact .pair hu hv (h.of_sameKind hprevious hnext)

/-- Every violation among merged tokens has come from one. -/
theorem exists_violation_of_mergeSigns
    (h : Violation (Token.mergeSigns tokens) rule code position) :
    ∃ place, Violation tokens rule code place ∧ place.map (mergedPlace tokens) = position := by
  cases h with
  | empty h => exact ⟨none, .empty (mergeSigns_eq_nil_iff.mp h), rfl⟩
  | @leading u first h =>
      have hne : 0 < tokens.length := by
        cases tokens with
        | nil => cases first
        | cons t rest => exact Nat.zero_lt_succ _
      obtain ⟨t, ht, hkind⟩ := exists_of_getElem?_mergeSigns (i := 0) hne first
      exact ⟨some 0, .leading ht (hkind.leading h), rfl⟩
  | @trailing q u last length h =>
      cases tokens with
      | nil => cases length
      | cons a rest =>
          rw [length_mergeSigns] at length
          obtain rfl := Nat.succ.inj length
          obtain ⟨t, ht, hkind⟩ := exists_of_getElem?_mergeSigns (Nat.lt_succ_self _) last
          exact ⟨some rest.length, .trailing ht rfl (hkind.trailing h), rfl⟩
  | unopened h =>
      obtain ⟨i, hi, rfl⟩ := exists_mergedPlace h.1
      exact ⟨some i, .unopened ((overclosed_mergeSigns_iff hi).mp h), rfl⟩
  | unequal h =>
      rw [count_mergeSigns rfl, count_mergeSigns rfl] at h
      exact ⟨none, .unequal h, rfl⟩
  | @pair rule code q u v previous next h =>
      -- What was next to the later one as it was written may be another sign of the same run.
      obtain ⟨j, hj, rfl, hstep⟩ := exists_neighbours (List.getElem?_eq_some_iff.mp next).1
      rw [← hstep] at next
      obtain ⟨a, ha, hprevious⟩ := exists_of_getElem?_mergeSigns (by omega) previous
      obtain ⟨b, hb, hnext⟩ := exists_of_getElem?_mergeSigns hj next
      refine ⟨some (rule.place j), .pair ha hb (h.of_sameKind hprevious hnext), ?_⟩
      rw [Option.map_some, mergedPlace_place hstep]

theorem FirstViolation.mergeSigns (h : FirstViolation tokens rule code position) :
    FirstViolation (Token.mergeSigns tokens) rule code (position.map (mergedPlace tokens)) := by
  refine ⟨h.violation.mergeSigns, ?_⟩
  intro other q hother
  obtain ⟨place, hviolation, hplace⟩ := exists_violation_of_mergeSigns hother
  obtain ⟨r, rfl, rfl⟩ := Option.map_eq_some_iff.mp hplace
  obtain ⟨p, rfl, hle, -⟩ := h.first other r hviolation
  refine ⟨mergedPlace tokens p, rfl, mergedPlace_monotone tokens hle, ?_⟩
  intro hsame
  exact h.violation.mergeSigns.code_unique hother (congrArg some hsame.symm)

/-- That an issue has gone along to the place where its token has gone. -/
def Issue.Follows (tokens : List Token) (written merged : Issue) : Prop :=
  merged.code = written.code ∧ merged.position = written.position.map (mergedPlace tokens)

theorem fault?_mergeSigns (tokens : List Token) (rule : Rule) :
    Option.Rel (fun written merged => Issue.Follows tokens written.issue merged.issue)
      (rule.fault? tokens) (rule.fault? (Token.mergeSigns tokens)) := by
  cases hwritten : rule.fault? tokens with
  | some written =>
      have hfirst := (firstViolation_of_fault? hwritten).1.mergeSigns
      obtain ⟨merged, hmerged⟩ := exists_fault_of_violation hfirst.violation
      rw [hmerged]
      exact .some (hfirst.unique (firstViolation_of_fault? hmerged).1)
  | none =>
      cases hmerged : rule.fault? (Token.mergeSigns tokens) with
      | none => exact .none
      | some merged =>
          have hfirst := (firstViolation_of_fault? hmerged).1
          obtain ⟨place, hviolation, -⟩ := exists_violation_of_mergeSigns hfirst.violation
          obtain ⟨fault, hfault⟩ := exists_fault_of_violation hviolation
          cases hwritten.symm.trans hfault

/-- A list of arbitrary texts and what merging leaves of it have the same issues in the same
order, each of them at the place where its token has gone, or both at none. Every text is found
where it has gone, but a sign may have become the other one. -/
theorem merging_moves_issues (texts : List String) :
    List.Forall₂ (Issue.Follows (texts.map ofText)) (structuralIssues texts)
        (structuralIssues (mergedTexts texts)) ∧
      ∀ i t, texts[i]? = some t →
        ∃ u, (mergedTexts texts)[mergedPlace (texts.map ofText) i]? = some u ∧
          (u = t ∨ isSignText t = true ∧ isSignText u = true) := by
  constructor
  · rw [structuralIssues, structuralIssues, map_ofText_mergedTexts, structuralFaults_eq_filterMap,
      structuralFaults_eq_filterMap, List.forall₂_map_left_iff, List.forall₂_map_right_iff]
    exact forall₂_filterMap (fault?_mergeSigns _) _
  · intro i t ht
    have htoken : (texts.map ofText)[i]? = some (ofText t) := by simp [ht]
    obtain ⟨u, hu, hkind⟩ := getElem?_mergeSigns htoken
    refine ⟨u.text, by simp [mergedTexts, hu], ?_⟩
    rcases hkind with rfl | ⟨hsign, husign⟩
    · exact .inl (text_ofText t)
    · obtain ⟨s, rfl⟩ := isSign_iff.mp husign
      exact .inr ⟨(isSign_ofText t).symm.trans hsign, isSignText_text s⟩

end Calculator
