import Calculator.Proofs.Token.Runs
import Mathlib.Order.Monotone.Basic

namespace Calculator

namespace Token

/-- The place of a token among the merged ones: that of the token before it if both are signs, else
the next one. -/
def mergedPlace (tokens : List Token) : Nat → Nat
  | 0 => 0
  | i + 1 =>
    if tokens[i]?.any isSign && tokens[i + 1]?.any isSign then mergedPlace tokens i
    else mergedPlace tokens i + 1

/-- The same token, or two signs. -/
def SameKind (t u : Token) : Prop := t = u ∨ t.isSign = true ∧ u.isSign = true

variable {t u : Token} {tokens : List Token} {i q : Nat}

theorem SameKind.symm (h : SameKind t u) : SameKind u t := by
  rcases h with rfl | ⟨ht, hu⟩
  · exact .inl rfl
  · exact .inr ⟨hu, ht⟩

theorem SameKind.eq_of_isSign_eq_false (h : SameKind t u) (ht : t.isSign = false) : u = t := by
  rcases h with rfl | ⟨hsign, -⟩
  · rfl
  · cases ht.symm.trans hsign

theorem SameKind.isSign_eq (h : SameKind t u) : u.isSign = t.isSign := by
  rcases h with rfl | ⟨ht, hu⟩
  · rfl
  · rw [ht, hu]

theorem SameKind.isOperator_eq (h : SameKind t u) : u.isOperator = t.isOperator := by
  rcases h with rfl | ⟨ht, hu⟩
  · rfl
  · rw [isOperator, isOperator, ht, hu]
    rfl

theorem mergedPlace_cons_succ (t : Token) (tokens : List Token) (i : Nat) :
    mergedPlace (t :: tokens) (i + 1) =
      mergedPlace tokens i + if t.isSign && leadsWithSign tokens then 0 else 1 := by
  induction i with
  | zero =>
      simp [mergedPlace, leadsWithSign, List.head?_eq_getElem?]
  | succ i ih =>
      rw [mergedPlace, ih, mergedPlace]
      simp only [List.getElem?_cons_succ]
      split <;> omega

theorem mergedPlace_le_succ (tokens : List Token) (i : Nat) :
    mergedPlace tokens i ≤ mergedPlace tokens (i + 1) := by
  rw [mergedPlace]
  split <;> omega

theorem mergedPlace_succ_le (tokens : List Token) (i : Nat) :
    mergedPlace tokens (i + 1) ≤ mergedPlace tokens i + 1 := by
  rw [mergedPlace]
  split <;> omega

theorem mergedPlace_monotone (tokens : List Token) : Monotone (mergedPlace tokens) :=
  monotone_nat_of_le_succ (mergedPlace_le_succ tokens)

theorem mergedPlace_succ (ht : tokens[i]? = some t) (hu : tokens[i + 1]? = some u)
    (h : ¬ (t.isSign = true ∧ u.isSign = true)) :
    mergedPlace tokens (i + 1) = mergedPlace tokens i + 1 := by
  rw [mergedPlace, ht, hu]
  simp only [Option.any_some, Bool.and_eq_true]
  rw [if_neg h]

theorem exists_pushSign (s : Sign) (tokens : List Token) :
    ∃ r more, pushSign s tokens = .sign r :: more := by
  cases tokens with
  | nil => exact ⟨s, [], rfl⟩
  | cons t tokens => cases t <;> exact ⟨_, _, rfl⟩

theorem isSign_iff : t.isSign = true ↔ ∃ s, t = .sign s := by
  cases t <;> simp [isSign]

theorem exists_sign_of_leadsWithSign (h : leadsWithSign tokens = true) :
    ∃ r more, tokens = .sign r :: more := by
  cases tokens with
  | nil => cases h
  | cons t more =>
      obtain ⟨r, rfl⟩ := isSign_iff.mp h
      exact ⟨r, more, rfl⟩

/-- Every token is found where it has gone, up to the kind of sign. -/
theorem getElem?_mergeSigns (h : tokens[i]? = some t) :
    ∃ u, (mergeSigns tokens)[mergedPlace tokens i]? = some u ∧ SameKind t u := by
  induction tokens generalizing i with
  | nil => simp at h
  | cons a rest ih =>
      cases ha : a.isSign with
      | false =>
          rw [mergeSigns_cons rest ha]
          cases i with
          | zero => exact ⟨a, rfl, .inl (Option.some.inj h).symm⟩
          | succ i =>
              obtain ⟨u, hu, hkind⟩ := ih h
              refine ⟨u, ?_, hkind⟩
              rw [mergedPlace_cons_succ, ha]
              exact hu
      | true =>
          obtain ⟨s, rfl⟩ := isSign_iff.mp ha
          rw [mergeSigns_sign_cons]
          cases i with
          | zero =>
              obtain ⟨r, more, hpush⟩ := exists_pushSign s (mergeSigns rest)
              rw [hpush]
              obtain rfl := Option.some.inj h
              exact ⟨.sign r, rfl, .inr ⟨rfl, rfl⟩⟩
          | succ i =>
              obtain ⟨u, hu, hkind⟩ := ih h
              rw [mergedPlace_cons_succ, ha, Bool.true_and]
              cases hlead : leadsWithSign rest with
              | false =>
                  rw [pushSign_of_leadsWithSign s ((leadsWithSign_mergeSigns rest).trans hlead)]
                  exact ⟨u, hu, hkind⟩
              | true =>
                  -- The sign joins the first one of the rest, behind which all places stay.
                  obtain ⟨r, more, hmore⟩ :=
                    exists_sign_of_leadsWithSign ((leadsWithSign_mergeSigns rest).trans hlead)
                  rw [hmore] at hu ⊢
                  cases hplace : mergedPlace rest i with
                  | zero =>
                      rw [hplace] at hu
                      obtain rfl := Option.some.inj hu
                      refine ⟨.sign (s.combine r), rfl, .inr ⟨?_, rfl⟩⟩
                      exact hkind.isSign_eq.symm
                  | succ p =>
                      rw [hplace] at hu
                      exact ⟨u, hu, hkind⟩

theorem exists_of_getElem?_mergeSigns (hi : i < tokens.length)
    (h : (mergeSigns tokens)[mergedPlace tokens i]? = some u) :
    ∃ t, tokens[i]? = some t ∧ SameKind u t := by
  obtain ⟨v, hv, hkind⟩ := getElem?_mergeSigns (List.getElem?_eq_getElem hi)
  obtain rfl := Option.some.inj (h.symm.trans hv)
  exact ⟨tokens[i], List.getElem?_eq_getElem hi, hkind.symm⟩

theorem length_pushSign (s : Sign) (tokens : List Token) :
    (pushSign s tokens).length = tokens.length + if leadsWithSign tokens then 0 else 1 := by
  cases hlead : leadsWithSign tokens with
  | false =>
      rw [pushSign_of_leadsWithSign s hlead]
      rfl
  | true =>
      obtain ⟨r, more, rfl⟩ := exists_sign_of_leadsWithSign hlead
      rfl

theorem length_mergeSigns_cons (t : Token) (tokens : List Token) :
    (mergeSigns (t :: tokens)).length =
      (mergeSigns tokens).length + if t.isSign && leadsWithSign tokens then 0 else 1 := by
  cases t with
  | sign s =>
      rw [mergeSigns_sign_cons, length_pushSign, leadsWithSign_mergeSigns]
      rfl
  | number _ | scale _ | opening | closing | other _ => rfl

theorem length_mergeSigns (t : Token) (tokens : List Token) :
    (mergeSigns (t :: tokens)).length = mergedPlace (t :: tokens) tokens.length + 1 := by
  induction tokens generalizing t with
  | nil => cases t <;> rfl
  | cons a rest ih =>
      rw [length_mergeSigns_cons, ih a, List.length_cons, mergedPlace_cons_succ]
      omega

theorem mergeSigns_eq_nil_iff : mergeSigns tokens = [] ↔ tokens = [] := by
  constructor
  · intro h
    cases tokens with
    | nil => rfl
    | cons t rest =>
        have hlength := length_mergeSigns t rest
        rw [h] at hlength
        cases hlength
  · rintro rfl
    rfl

theorem mergedPlace_lt_length (h : i < tokens.length) :
    mergedPlace tokens i < (mergeSigns tokens).length := by
  obtain ⟨u, hu, -⟩ := getElem?_mergeSigns (List.getElem?_eq_getElem h)
  exact (List.getElem?_eq_some_iff.mp hu).1

theorem exists_step (h : q + 1 ≤ mergedPlace tokens i) :
    ∃ j < i, mergedPlace tokens j = q ∧ mergedPlace tokens (j + 1) = q + 1 := by
  induction i with
  | zero => exact absurd h (Nat.not_succ_le_zero q)
  | succ i ih =>
      by_cases hearlier : q + 1 ≤ mergedPlace tokens i
      · obtain ⟨j, hj, hstep⟩ := ih hearlier
        exact ⟨j, by omega, hstep⟩
      · have hle := mergedPlace_succ_le tokens i
        exact ⟨i, by omega, by omega, by omega⟩

/-- No place of the merged tokens is left out, and neighbours there come from neighbours. -/
theorem exists_neighbours (h : q + 1 < (mergeSigns tokens).length) :
    ∃ j, j + 1 < tokens.length ∧ mergedPlace tokens j = q ∧ mergedPlace tokens (j + 1) = q + 1 := by
  cases tokens with
  | nil => exact absurd h (Nat.not_lt_zero _)
  | cons t rest =>
      rw [length_mergeSigns] at h
      have hpassed : q + 1 ≤ mergedPlace (t :: rest) rest.length := by omega
      obtain ⟨j, hj, hstep⟩ := exists_step hpassed
      refine ⟨j, ?_, hstep⟩
      rw [List.length_cons]
      omega

theorem exists_mergedPlace (h : q < (mergeSigns tokens).length) :
    ∃ i < tokens.length, mergedPlace tokens i = q := by
  cases q with
  | zero =>
      refine ⟨0, ?_, rfl⟩
      cases tokens with
      | nil => exact absurd h (Nat.not_lt_zero _)
      | cons t rest => exact Nat.zero_lt_succ _
  | succ q =>
      obtain ⟨j, hj, -, hnext⟩ := exists_neighbours h
      exact ⟨j + 1, hj, hnext⟩

example :
    (List.range 5).map
        (mergedPlace [.sign .minus, .sign .minus, .opening, .sign .plus, .closing]) =
      [0, 0, 1, 2, 3] := by decide

theorem SameKind.count_singleton {a : Token} (h : SameKind a u) (ht : t.isSign = false) :
    [u].count t = [a].count t := by
  rcases h with rfl | ⟨ha, hu⟩
  · rfl
  · have hat : a ≠ t := by
      rintro rfl
      cases ht.symm.trans ha
    have hut : u ≠ t := by
      rintro rfl
      cases ht.symm.trans hu
    simp [hat, hut]

theorem count_take_succ {a : Token} (h : tokens[i]? = some a) (t : Token) :
    (tokens.take (i + 1)).count t = (tokens.take i).count t + [a].count t := by
  rw [List.take_add_one, h, List.count_append]
  rfl

/-- Up to a place and up to where it goes, a token that is no sign stands as often. -/
theorem count_take_mergeSigns (ht : t.isSign = false) (hi : i < tokens.length) :
    ((mergeSigns tokens).take (mergedPlace tokens i + 1)).count t =
      (tokens.take (i + 1)).count t := by
  induction i with
  | zero =>
      have ha := List.getElem?_eq_getElem hi
      obtain ⟨u, hu, hkind⟩ := getElem?_mergeSigns ha
      rw [count_take_succ hu, count_take_succ ha, hkind.count_singleton ht]
      rfl
  | succ i ih =>
      have ha := List.getElem?_eq_getElem hi
      have hb := List.getElem?_eq_getElem (show i < tokens.length by omega)
      have hcount := ih (by omega)
      by_cases hsigns : tokens[i].isSign = true ∧ tokens[i + 1].isSign = true
      · have hplace : mergedPlace tokens (i + 1) = mergedPlace tokens i := by
          rw [mergedPlace, ha, hb]
          simp [hsigns]
        have hne : tokens[i + 1] ≠ t := by
          intro heq
          rw [heq, ht] at hsigns
          cases hsigns.2
        rw [hplace, hcount, count_take_succ ha]
        simp [hne]
      · obtain ⟨u, hu, hkind⟩ := getElem?_mergeSigns ha
        rw [count_take_succ hu, count_take_succ ha, hkind.count_singleton ht,
          mergedPlace_succ hb ha hsigns, hcount]

theorem count_mergeSigns (ht : t.isSign = false) (tokens : List Token) :
    (mergeSigns tokens).count t = tokens.count t := by
  cases tokens with
  | nil => rfl
  | cons a rest =>
      have hlast : rest.length < (a :: rest).length := Nat.lt_succ_self _
      have hcount := count_take_mergeSigns ht hlast
      rwa [← length_mergeSigns, List.take_length, ← List.length_cons, List.take_length] at hcount

end Token

end Calculator
