import Calculator.Proofs.Rules.Acceptance
import Calculator.Proofs.Rules.Reports
import Calculator.Proofs.Token.Texts
import Mathlib.Data.List.Forall2
import Mathlib.Data.Nat.Find

/-!
Where the rules are broken, told without asking them. A rule that is asked by itself answers with
the first violation of it, and shows what stands at its place; it has no answer if there is none.
-/

namespace Calculator

/-- That two neighbours break a rule about neighbours, and the code of what they break. -/
inductive BreaksPair : Rule → Code → Token → Token → Prop where
  | emptyGroup : BreaksPair .emptyGroup .emptyGroup .opening .closing
  | adjacentNumbers (m n : Numeral) :
      BreaksPair .adjacentNumbers .adjacentNumbers (.number m) (.number n)
  | afterOpening {next : Token} (number : ∀ n, next ≠ .number n) (sign : ∀ s, next ≠ .sign s)
      (opening : next ≠ .opening) :
      BreaksPair .tokenAdjacency .illegalSequenceAfterOpenParen .opening next
  | closingBeforeOpening :
      BreaksPair .tokenAdjacency .illegalSequenceBeforeOpenParen .closing .opening
  | numberBeforeOpening (n : Numeral) :
      BreaksPair .tokenAdjacency .illegalSequenceBeforeOpenParen (.number n) .opening
  | afterClosing (n : Numeral) :
      BreaksPair .tokenAdjacency .illegalSequenceAfterCloseParen .closing (.number n)
  | beforeClosing (o : Operator) :
      BreaksPair .tokenAdjacency .illegalSequenceBeforeCloseParen o.token .closing
  | operatorSequence (o : Operator) (s : Scale) :
      BreaksPair .operatorSequence .illegalOperatorSequence o.token (.scale s)

/-- The place of two neighbours is that of the later one, but a group stands where it opens. -/
def Rule.place (rule : Rule) (position : Nat) : Nat :=
  if rule = .emptyGroup then position else position + 1

/-- More parentheses are closed up to a place than are opened there, with `depth` of them open at
first. -/
def Overclosed (depth : Nat) (tokens : List Token) (position : Nat) : Prop :=
  position < tokens.length ∧
    depth + (tokens.take (position + 1)).count .opening <
      (tokens.take (position + 1)).count .closing

/-- That a rule is broken, by its code and its place if it has one. -/
inductive Violation (tokens : List Token) : Rule → Code → Option Nat → Prop where
  | empty (h : tokens = []) : Violation tokens .notEmpty .emptyExpression none
  | leading {t : Token} (first : tokens[0]? = some t) (h : t = .closing ∨ ∃ s, t = .scale s) :
      Violation tokens .leadingToken .invalidLeadingToken (some 0)
  | trailing {position : Nat} {t : Token} (last : tokens[position]? = some t)
      (length : tokens.length = position + 1) (h : t = .opening ∨ ∃ o : Operator, t = o.token) :
      Violation tokens .trailingToken .invalidTrailingToken (some position)
  | unopened {position : Nat} (h : Overclosed 0 tokens position) :
      Violation tokens .parenthesesBalance .unbalancedParentheses (some position)
  | unequal (h : tokens.count .opening ≠ tokens.count .closing) :
      Violation tokens .parenthesesBalance .unbalancedParentheses none
  | pair {rule : Rule} {code : Code} {position : Nat} {a b : Token}
      (previous : tokens[position]? = some a) (next : tokens[position + 1]? = some b)
      (h : BreaksPair rule code a b) : Violation tokens rule code (some (rule.place position))

/-- A violation before which the rule is not broken. It has no place only if no violation has one.
-/
structure FirstViolation (tokens : List Token) (rule : Rule) (code : Code) (position : Option Nat) :
    Prop where
  violation : Violation tokens rule code position
  first : ∀ other q, Violation tokens rule other (some q) →
    ∃ p, position = some p ∧ p ≤ q ∧ (p = q → other = code)

/-- That an issue shows the text at its place, or both texts of an empty group. -/
def Shows (texts : List String) (issue : Issue) : Prop :=
  ∀ p, issue.position = some p → ∃ text, texts[p]? = some text ∧
    if issue.code = .emptyGroup then
      ∃ next, texts[p + 1]? = some next ∧ issue.token = some (text ++ next)
    else issue.token = some text

/-- What a rule has to answer: that it is kept, or its first violation. -/
inductive Judged (tokens : List Token) (rule : Rule) : Option StructuralFault → Prop where
  | kept (h : ∀ code position, ¬ Violation tokens rule code position) : Judged tokens rule none
  | broken {fault : StructuralFault}
      (first : FirstViolation tokens rule fault.issue.code fault.issue.position)
      (shows : Shows (tokens.map Token.text) fault.issue) : Judged tokens rule (some fault)

variable {tokens : List Token} {rule : Rule} {code : Code} {position : Option Nat}
  {broken : Nat → Token → Token → Option StructuralFault} {fault : StructuralFault}

namespace Token

variable {t : Token}

theorem isNumber_iff : t.isNumber = true ↔ ∃ n, t = .number n := by
  cases t <;> simp [isNumber]

theorem isScale_iff : t.isScale = true ↔ ∃ s, t = .scale s := by
  cases t <;> simp [isScale]

theorem isOperator_iff : t.isOperator = true ↔ ∃ o : Operator, t = o.token := by
  constructor
  · intro h
    cases t with
    | sign s => exact ⟨.additive s, rfl⟩
    | scale s => exact ⟨.multiplicative s, rfl⟩
    | number _ | opening | closing | other _ => cases h
  · rintro ⟨o, rfl⟩
    cases o <;> rfl

theorem endsOperand_iff : t.endsOperand = true ↔ t = .closing ∨ ∃ n, t = .number n := by
  cases t <;> simp [endsOperand]

theorem cannotLead_iff : t.cannotLead = true ↔ t = .closing ∨ ∃ s, t = .scale s := by
  cases t <;> simp [cannotLead]

theorem cannotTrail_iff : t.cannotTrail = true ↔ t = .opening ∨ ∃ o : Operator, t = o.token := by
  rw [← isOperator_iff]
  cases t <;> simp [cannotTrail, isOperator, isSign, isScale]

theorem followsOpening_eq_false_iff :
    t.followsOpening = false ↔ (∀ n, t ≠ .number n) ∧ (∀ s, t ≠ .sign s) ∧ t ≠ .opening := by
  cases t <;> simp [followsOpening]

end Token

section Neighbours

theorem firstPair_cons_cons (place : Nat) (a b : Token) (rest : List Token) :
    firstPair broken place (a :: b :: rest) =
      (broken place a b).orElse fun _ => firstPair broken (place + 1) (b :: rest) := rfl

theorem firstPair_eq_none_iff (place : Nat) :
    firstPair broken place tokens = none ↔
      ∀ p a b, tokens[p]? = some a → tokens[p + 1]? = some b → broken (place + p) a b = none := by
  induction tokens generalizing place with
  | nil => simp [firstPair]
  | cons a tokens ih =>
      cases tokens with
      | nil => simp [firstPair]
      | cons b rest =>
          rw [firstPair_cons_cons_eq_none_iff, ih]
          constructor
          · rintro ⟨hpair, hrest⟩ p c d hc hd
            cases p with
            | zero =>
                obtain rfl := Option.some.inj hc
                obtain rfl := Option.some.inj hd
                exact hpair
            | succ p =>
                have hnone := hrest p c d hc hd
                rwa [Nat.add_right_comm] at hnone
          · intro h
            refine ⟨h 0 a b rfl rfl, ?_⟩
            intro p c d hc hd
            have hnone := h (p + 1) c d hc hd
            rwa [← Nat.add_assoc, Nat.add_right_comm] at hnone

/-- What is reported of two neighbours is about the first two that are at fault. -/
theorem exists_first_of_firstPair (place : Nat) (h : firstPair broken place tokens = some fault) :
    ∃ p a b, tokens[p]? = some a ∧ tokens[p + 1]? = some b ∧ broken (place + p) a b = some fault ∧
      ∀ q < p, ∀ c d, tokens[q]? = some c → tokens[q + 1]? = some d →
        broken (place + q) c d = none := by
  induction tokens generalizing place with
  | nil => cases h
  | cons a tokens ih =>
      cases tokens with
      | nil => cases h
      | cons b rest =>
          cases hpair : broken place a b with
          | some found =>
              rw [firstPair_cons_cons, hpair] at h
              refine ⟨0, a, b, rfl, rfl, hpair.trans h, ?_⟩
              intro q hq
              omega
          | none =>
              rw [firstPair_cons_cons, hpair] at h
              obtain ⟨p, c, d, hc, hd, hbroken, hfirst⟩ := ih (place + 1) h
              refine ⟨p + 1, c, d, hc, hd, ?_, ?_⟩
              · rwa [← Nat.add_assoc, Nat.add_right_comm]
              · intro q hq x y hx hy
                cases q with
                | zero =>
                    obtain rfl := Option.some.inj hx
                    obtain rfl := Option.some.inj hy
                    exact hpair
                | succ q =>
                    have hnone := hfirst q (by omega) x y hx hy
                    rwa [← Nat.add_assoc, Nat.add_right_comm]

/-- That a check of two neighbours finds what they break of a rule, and shows it. -/
structure FindsBreaks (rule : Rule) (broken : Nat → Token → Token → Option StructuralFault) :
    Prop where
  sound : ∀ {p a b fault}, broken p a b = some fault →
    BreaksPair rule fault.issue.code a b ∧ fault.issue.position = some (rule.place p) ∧
      fault.issue.token = some (if rule = .emptyGroup then a.text ++ b.text else b.text)
  complete : ∀ {p a b code}, BreaksPair rule code a b →
    ∃ fault, broken p a b = some fault ∧ fault.issue.code = code

theorem findsBreaks_emptyGroup : FindsBreaks .emptyGroup emptyGroupFault? where
  sound := by
    intro p a b fault h
    rw [emptyGroupFault?.eq_def] at h
    split at h
    · cases h
      exact ⟨.emptyGroup, rfl, rfl⟩
    · cases h
  complete := by
    intro p a b code h
    cases h with
    | emptyGroup => exact ⟨_, rfl, rfl⟩

theorem findsBreaks_adjacentNumbers : FindsBreaks .adjacentNumbers adjacentNumbersFault? where
  sound := by
    intro p a b fault h
    rw [adjacentNumbersFault?] at h
    split at h
    next hnumbers =>
      cases h
      rw [Bool.and_eq_true, Token.isNumber_iff, Token.isNumber_iff] at hnumbers
      obtain ⟨⟨m, rfl⟩, ⟨n, rfl⟩⟩ := hnumbers
      exact ⟨.adjacentNumbers m n, rfl, rfl⟩
    next => cases h
  complete := by
    intro p a b code h
    cases h with
    | adjacentNumbers m n => exact ⟨_, rfl, rfl⟩

theorem findsBreaks_tokenAdjacency : FindsBreaks .tokenAdjacency adjacencyFault? where
  sound := by
    intro p a b fault h
    rw [adjacencyFault?] at h
    split at h
    next hopening =>
      cases h
      obtain ⟨rfl, hfollows⟩ := hopening
      obtain ⟨hnumber, hsign, hnone⟩ :=
        Token.followsOpening_eq_false_iff.mp (Bool.eq_false_iff.mpr hfollows)
      exact ⟨.afterOpening hnumber hsign hnone, rfl, rfl⟩
    next =>
      split at h
      next hbefore =>
        cases h
        obtain ⟨hends, rfl⟩ := hbefore
        obtain rfl | ⟨n, rfl⟩ := Token.endsOperand_iff.mp hends
        · exact ⟨.closingBeforeOpening, rfl, rfl⟩
        · exact ⟨.numberBeforeOpening n, rfl, rfl⟩
      next =>
        split at h
        next hafter =>
          cases h
          obtain ⟨rfl, hnumber⟩ := hafter
          obtain ⟨n, rfl⟩ := Token.isNumber_iff.mp hnumber
          exact ⟨.afterClosing n, rfl, rfl⟩
        next =>
          split at h
          next hclosing =>
            cases h
            obtain ⟨hoperator, rfl⟩ := hclosing
            obtain ⟨o, rfl⟩ := Token.isOperator_iff.mp hoperator
            exact ⟨.beforeClosing o, rfl, rfl⟩
          next => cases h
  complete := by
    intro p a b code h
    cases h with
    | afterOpening hnumber hsign hopening =>
        have hfollows := Token.followsOpening_eq_false_iff.mpr ⟨hnumber, hsign, hopening⟩
        refine ⟨.afterOpening b (p + 1), ?_, rfl⟩
        rw [adjacencyFault?, if_pos ⟨rfl, Bool.eq_false_iff.mp hfollows⟩]
    | closingBeforeOpening => exact ⟨_, rfl, rfl⟩
    | numberBeforeOpening n => exact ⟨_, rfl, rfl⟩
    | afterClosing n => exact ⟨_, rfl, rfl⟩
    | beforeClosing o => cases o <;> exact ⟨_, rfl, rfl⟩

theorem findsBreaks_operatorSequence : FindsBreaks .operatorSequence operatorSequenceFault? where
  sound := by
    intro p a b fault h
    rw [operatorSequenceFault?] at h
    split at h
    next hsequence =>
      cases h
      rw [Bool.and_eq_true, Token.isScale_iff, Token.isOperator_iff] at hsequence
      obtain ⟨⟨s, rfl⟩, ⟨o, rfl⟩⟩ := hsequence
      exact ⟨.operatorSequence o s, rfl, rfl⟩
    next => cases h
  complete := by
    intro p a b code h
    cases h with
    | operatorSequence o s => cases o <;> exact ⟨_, rfl, rfl⟩

theorem BreaksPair.exists_findsBreaks {a b : Token} (h : BreaksPair rule code a b) :
    ∃ broken, FindsBreaks rule broken := by
  cases h with
  | emptyGroup => exact ⟨_, findsBreaks_emptyGroup⟩
  | adjacentNumbers _ _ => exact ⟨_, findsBreaks_adjacentNumbers⟩
  | operatorSequence _ _ => exact ⟨_, findsBreaks_operatorSequence⟩
  | afterOpening _ _ _ | closingBeforeOpening | numberBeforeOpening _ | afterClosing _
  | beforeClosing _ => exact ⟨_, findsBreaks_tokenAdjacency⟩

theorem BreaksPair.code_unique {a b : Token} {other : Code} (h : BreaksPair rule code a b)
    (hother : BreaksPair rule other a b) : other = code := by
  obtain ⟨broken, hbroken⟩ := h.exists_findsBreaks
  obtain ⟨fault, hfault, rfl⟩ := hbroken.complete (p := 0) h
  obtain ⟨found, hfound, rfl⟩ := hbroken.complete (p := 0) hother
  rw [Option.some.inj (hfault.symm.trans hfound)]

theorem Rule.place_le {p q : Nat} : rule.place p ≤ rule.place q ↔ p ≤ q := by
  rw [place, place]
  split <;> omega

theorem Rule.place_inj {p q : Nat} (h : rule.place p = rule.place q) : p = q :=
  Nat.le_antisymm (place_le.mp h.le) (place_le.mp h.ge)

theorem Violation.code_unique {other : Code} {place : Option Nat}
    (h : Violation tokens rule code position) (hother : Violation tokens rule other place)
    (hplace : place = position) : other = code := by
  cases h with
  | pair ha hb h =>
      cases hother with
      | pair hc hd hother =>
          obtain rfl := Rule.place_inj (Option.some.inj hplace)
          obtain rfl := Option.some.inj (ha.symm.trans hc)
          obtain rfl := Option.some.inj (hb.symm.trans hd)
          exact h.code_unique hother
      | empty _ | leading _ _ | trailing _ _ _ | unopened _ | unequal _ => cases h
  | empty _ | leading _ _ | trailing _ _ _ | unopened _ | unequal _ =>
      cases hother with
      | pair _ _ h => cases h
      | _ => rfl

theorem code_eq_emptyGroup_iff {a b : Token} (h : BreaksPair rule code a b) :
    code = .emptyGroup ↔ rule = .emptyGroup := by
  cases h <;> simp

theorem Violation.exists_pair
    (hrule : rule ∈ [Rule.emptyGroup, .adjacentNumbers, .tokenAdjacency, .operatorSequence])
    (h : Violation tokens rule code position) :
    ∃ p a b, position = some (rule.place p) ∧ tokens[p]? = some a ∧ tokens[p + 1]? = some b ∧
      BreaksPair rule code a b := by
  cases h with
  | pair ha hb h => exact ⟨_, _, _, rfl, ha, hb, h⟩
  | empty _ | leading _ _ | trailing _ _ _ | unopened _ | unequal _ => simp at hrule

theorem judged_firstPair
    (hrule : rule ∈ [Rule.emptyGroup, .adjacentNumbers, .tokenAdjacency, .operatorSequence])
    (hbroken : FindsBreaks rule broken) : Judged tokens rule (firstPair broken 0 tokens) := by
  cases hfound : firstPair broken 0 tokens with
  | none =>
      refine .kept ?_
      intro code position h
      obtain ⟨p, a, b, -, ha, hb, hbreaks⟩ := h.exists_pair hrule
      have hnone := (firstPair_eq_none_iff 0).mp hfound p a b ha hb
      obtain ⟨fault, hfault, -⟩ := hbroken.complete hbreaks
      cases hnone.symm.trans hfault
  | some fault =>
      obtain ⟨p, a, b, ha, hb, hfault, hfirst⟩ := exists_first_of_firstPair 0 hfound
      rw [Nat.zero_add] at hfault
      obtain ⟨hbreaks, hposition, htoken⟩ := hbroken.sound hfault
      refine .broken ⟨hposition ▸ .pair ha hb hbreaks, ?_⟩ ?_
      · intro other q h
        obtain ⟨r, c, d, hplace, hc, hd, hother⟩ := h.exists_pair hrule
        obtain rfl := Option.some.inj hplace
        have hle : p ≤ r := by
          by_contra hlt
          have hnone := hfirst r (by omega) c d hc hd
          obtain ⟨found, hfound, -⟩ := hbroken.complete (p := 0 + r) hother
          cases hnone.symm.trans hfound
        refine ⟨rule.place p, hposition, Rule.place_le.mpr hle, ?_⟩
        intro hplaces
        obtain rfl := Rule.place_inj hplaces
        obtain rfl := Option.some.inj (ha.symm.trans hc)
        obtain rfl := Option.some.inj (hb.symm.trans hd)
        exact hbreaks.code_unique hother
      · intro q hq
        obtain rfl := Option.some.inj (hposition.symm.trans hq)
        rw [Rule.place, htoken]
        split
        next hgroup =>
          refine ⟨a.text, by simp [ha], ?_⟩
          rw [if_pos ((code_eq_emptyGroup_iff hbreaks).mpr hgroup)]
          exact ⟨b.text, by simp [hb], rfl⟩
        next hgroup =>
          refine ⟨b.text, by simp [hb], ?_⟩
          rw [if_neg (fun hcode => hgroup ((code_eq_emptyGroup_iff hbreaks).mp hcode))]

end Neighbours

section Parentheses

variable {t : Token} {depth after p : Nat}

theorem parenthesisFault?_cons (place depth : Nat) (t : Token) (tokens : List Token) :
    parenthesisFault? place depth (t :: tokens) =
      (t.depthAfter? depth).elim (some (.unopened place)) fun after =>
        parenthesisFault? (place + 1) after tokens := by
  cases t with
  | closing => cases depth <;> rfl
  | number _ | sign _ | scale _ | opening | other _ => rfl

theorem overclosed_zero_iff : Overclosed depth (t :: tokens) 0 ↔ t.depthAfter? depth = none := by
  cases t with
  | closing => simp [Overclosed, Token.depthAfter?]
  | number _ | sign _ | scale _ | opening | other _ => simp [Overclosed, Token.depthAfter?]

theorem overclosed_succ_iff (h : t.depthAfter? depth = some after) :
    Overclosed depth (t :: tokens) (p + 1) ↔ Overclosed after tokens p := by
  cases t with
  | closing =>
      simp only [Token.depthAfter?, Option.ite_none_left_eq_some, Option.some.injEq] at h
      simp [Overclosed]
      omega
  | opening =>
      simp only [Token.depthAfter?, Option.some.injEq] at h
      simp [Overclosed]
      omega
  | number _ | sign _ | scale _ | other _ =>
      simp only [Token.depthAfter?, Option.some.injEq] at h
      simp [Overclosed, h]

theorem count_of_depthAfter? (h : t.depthAfter? depth = some after) :
    after + tokens.count .opening = tokens.count .closing ↔
      depth + (t :: tokens).count .opening = (t :: tokens).count .closing := by
  cases t with
  | closing =>
      simp only [Token.depthAfter?, Option.ite_none_left_eq_some, Option.some.injEq] at h
      simp
      omega
  | opening =>
      simp only [Token.depthAfter?, Option.some.injEq] at h
      simp
      omega
  | number _ | sign _ | scale _ | other _ =>
      simp only [Token.depthAfter?, Option.some.injEq] at h
      simp [h]

theorem parenthesisFault?_of_first (place : Nat) (h : Overclosed depth tokens p)
    (hfirst : ∀ q < p, ¬ Overclosed depth tokens q) :
    parenthesisFault? place depth tokens = some (.unopened (place + p)) ∧
      tokens[p]? = some .closing := by
  induction tokens generalizing place depth p with
  | nil => exact absurd h.1 (Nat.not_lt_zero p)
  | cons t tokens ih =>
      rw [parenthesisFault?_cons]
      cases hafter : t.depthAfter? depth with
      | none =>
          have hp : p = 0 := by
            by_contra hne
            exact hfirst 0 (by omega) (overclosed_zero_iff.mpr hafter)
          subst hp
          cases t with
          | closing => exact ⟨rfl, rfl⟩
          | number _ | sign _ | scale _ | opening | other _ => cases hafter
      | some after =>
          cases p with
          | zero => cases hafter.symm.trans (overclosed_zero_iff.mp h)
          | succ p =>
              have hrest := ih (place + 1) ((overclosed_succ_iff hafter).mp h) fun q hq hover =>
                hfirst (q + 1) (by omega) ((overclosed_succ_iff hafter).mpr hover)
              rwa [Nat.add_right_comm] at hrest

theorem parenthesisFault?_of_none (place : Nat) (h : ∀ q, ¬ Overclosed depth tokens q) :
    parenthesisFault? place depth tokens =
      if depth + tokens.count .opening = tokens.count .closing then none
      else some .unequalParentheses := by
  induction tokens generalizing place depth with
  | nil => rfl
  | cons t tokens ih =>
      rw [parenthesisFault?_cons]
      cases hafter : t.depthAfter? depth with
      | none => exact absurd (overclosed_zero_iff.mpr hafter) (h 0)
      | some after =>
          have hrest := ih (place + 1) fun q hover =>
            h (q + 1) ((overclosed_succ_iff hafter).mpr hover)
          rw [Option.elim_some, hrest]
          simp only [count_of_depthAfter? hafter]

theorem exists_first_overclosed (depth : Nat) (tokens : List Token) :
    (∃ p, Overclosed depth tokens p ∧ ∀ q < p, ¬ Overclosed depth tokens q) ∨
      ∀ q, ¬ Overclosed depth tokens q := by
  by_cases h : ∃ p, Overclosed depth tokens p
  · classical
    left
    exact ⟨Nat.find h, Nat.find_spec h, fun q hq => Nat.find_min h hq⟩
  · right
    intro q hq
    exact h ⟨q, hq⟩

theorem firstViolation_unopened_iff :
    FirstViolation tokens .parenthesesBalance .unbalancedParentheses (some p) ↔
      Overclosed 0 tokens p ∧ ∀ q < p, ¬ Overclosed 0 tokens q := by
  constructor
  · rintro ⟨hviolation, hfirst⟩
    cases hviolation with
    | unopened hover =>
        refine ⟨hover, ?_⟩
        intro q hq hearlier
        obtain ⟨r, hr, hle, -⟩ := hfirst _ q (.unopened hearlier)
        obtain rfl := Option.some.inj hr
        omega
    | pair _ _ h => cases h
  · rintro ⟨hover, hfirst⟩
    refine ⟨.unopened hover, ?_⟩
    intro other q h
    cases h with
    | unopened hq =>
        refine ⟨p, rfl, ?_, fun _ => rfl⟩
        by_contra hlt
        exact hfirst q (by omega) hq
    | pair _ _ h => cases h

theorem firstViolation_unequal_iff :
    FirstViolation tokens .parenthesesBalance .unbalancedParentheses none ↔
      (∀ q, ¬ Overclosed 0 tokens q) ∧ tokens.count .opening ≠ tokens.count .closing := by
  constructor
  · rintro ⟨hviolation, hfirst⟩
    cases hviolation with
    | unequal hne =>
        refine ⟨?_, hne⟩
        intro q hover
        obtain ⟨p, hp, -⟩ := hfirst _ q (.unopened hover)
        cases hp
  · rintro ⟨hnone, hne⟩
    refine ⟨.unequal hne, ?_⟩
    intro other q h
    cases h with
    | unopened hq => exact absurd hq (hnone q)
    | pair _ _ h => cases h

theorem judged_parenthesesBalance (tokens : List Token) :
    Judged tokens .parenthesesBalance (Rule.parenthesesBalance.fault? tokens) := by
  rw [Rule.fault?]
  obtain ⟨p, hover, hfirst⟩ | hnone := exists_first_overclosed 0 tokens
  · obtain ⟨hfault, hclosing⟩ := parenthesisFault?_of_first 0 hover hfirst
    rw [hfault, Nat.zero_add]
    refine .broken (firstViolation_unopened_iff.mpr ⟨hover, hfirst⟩) ?_
    intro q hq
    obtain rfl := Option.some.inj hq
    exact ⟨Token.closing.text, by simp [hclosing], rfl⟩
  · rw [parenthesisFault?_of_none 0 hnone, Nat.zero_add]
    split
    next hequal =>
      refine .kept ?_
      intro code position h
      cases h with
      | unopened hq => exact hnone _ hq
      | unequal hne => exact hne hequal
      | pair _ _ h => cases h
    next hne =>
      refine .broken (firstViolation_unequal_iff.mpr ⟨hnone, hne⟩) ?_
      intro q hq
      cases hq

end Parentheses

theorem judged_notEmpty (tokens : List Token) :
    Judged tokens .notEmpty (Rule.notEmpty.fault? tokens) := by
  rw [Rule.fault?]
  split
  next hnil =>
    refine .broken ⟨.empty hnil, ?_⟩ ?_
    · intro other q h
      cases h with
      | pair _ _ h => cases h
    · intro q hq
      cases hq
  next hne =>
    refine .kept ?_
    intro code position h
    cases h with
    | empty hnil => exact hne hnil
    | pair _ _ h => cases h

theorem judged_leadingToken (tokens : List Token) :
    Judged tokens .leadingToken (Rule.leadingToken.fault? tokens) := by
  cases tokens with
  | nil =>
      refine .kept ?_
      intro code position h
      cases h with
      | leading first _ => cases first
      | pair _ _ h => cases h
  | cons t rest =>
      cases hlead : t.cannotLead with
      | false =>
          have hnone : Rule.leadingToken.fault? (t :: rest) = none := by simp [Rule.fault?, hlead]
          rw [hnone]
          refine .kept ?_
          intro code position h
          cases h with
          | leading first h =>
              obtain rfl := Option.some.inj first
              cases hlead.symm.trans (Token.cannotLead_iff.mpr h)
          | pair _ _ h => cases h
      | true =>
          have hfault : Rule.leadingToken.fault? (t :: rest) = some (.leading t) := by
            simp [Rule.fault?, hlead]
          rw [hfault]
          refine .broken ⟨.leading rfl (Token.cannotLead_iff.mp hlead), ?_⟩ ?_
          · intro other q h
            cases h with
            | leading _ _ => exact ⟨0, rfl, le_rfl, fun _ => rfl⟩
            | pair _ _ h => cases h
          · intro q hq
            obtain rfl := Option.some.inj hq
            exact ⟨t.text, rfl, rfl⟩

theorem judged_trailingToken (tokens : List Token) :
    Judged tokens .trailingToken (Rule.trailingToken.fault? tokens) := by
  obtain rfl | ⟨front, t, rfl⟩ := List.eq_nil_or_concat tokens
  · refine .kept ?_
    intro code position h
    cases h with
    | trailing last _ _ => cases last
    | pair _ _ h => cases h
  · rw [List.concat_eq_append]
    have hlast : (front ++ [t])[front.length]? = some t := by simp
    cases htrail : t.cannotTrail with
    | false =>
        have hnone : Rule.trailingToken.fault? (front ++ [t]) = none := by
          simp [Rule.fault?, htrail]
        rw [hnone]
        refine .kept ?_
        intro code position h
        cases h with
        | @trailing p u last length h =>
            obtain rfl : front.length = p := by simpa using length
            obtain rfl := Option.some.inj (hlast.symm.trans last)
            cases htrail.symm.trans (Token.cannotTrail_iff.mpr h)
        | pair _ _ h => cases h
    | true =>
        have hfault :
            Rule.trailingToken.fault? (front ++ [t]) = some (.trailing t front.length) := by
          simp [Rule.fault?, htrail]
        rw [hfault]
        refine .broken ⟨.trailing hlast (by simp) (Token.cannotTrail_iff.mp htrail), ?_⟩ ?_
        · intro other q h
          cases h with
          | trailing _ length _ =>
              have hq : front.length = q := by simpa using length
              exact ⟨front.length, rfl, hq.le, fun _ => rfl⟩
          | pair _ _ h => cases h
        · intro q hq
          obtain rfl := Option.some.inj hq
          exact ⟨t.text, by simp, rfl⟩

theorem judged_fault? (tokens : List Token) (rule : Rule) :
    Judged tokens rule (rule.fault? tokens) := by
  cases rule with
  | notEmpty => exact judged_notEmpty tokens
  | leadingToken => exact judged_leadingToken tokens
  | trailingToken => exact judged_trailingToken tokens
  | parenthesesBalance => exact judged_parenthesesBalance tokens
  | emptyGroup => exact judged_firstPair (by simp) findsBreaks_emptyGroup
  | adjacentNumbers => exact judged_firstPair (by simp) findsBreaks_adjacentNumbers
  | tokenAdjacency => exact judged_firstPair (by simp) findsBreaks_tokenAdjacency
  | operatorSequence => exact judged_firstPair (by simp) findsBreaks_operatorSequence

end Calculator
