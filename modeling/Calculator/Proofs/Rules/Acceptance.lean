import Calculator.Proofs.Grammar.Progress
import Calculator.Proofs.Token.Lexing
import Calculator.Rules

namespace Calculator

/-- That no rule about neighbours is broken by these two. -/
def KeepsRules (position : Nat) (previous next : Token) : Prop :=
  emptyGroupFault? position previous next = none ∧
    adjacentNumbersFault? position previous next = none ∧
    adjacencyFault? position previous next = none ∧
    operatorSequenceFault? position previous next = none

def NeighboursKeepRules (position : Nat) (tokens : List Token) : Prop :=
  firstPair emptyGroupFault? position tokens = none ∧
    firstPair adjacentNumbersFault? position tokens = none ∧
    firstPair adjacencyFault? position tokens = none ∧
    firstPair operatorSequenceFault? position tokens = none

theorem firstPair_cons_cons_eq_none_iff (broken : Nat → Token → Token → Option StructuralFault)
    (position : Nat) (a b : Token) (rest : List Token) :
    firstPair broken position (a :: b :: rest) = none ↔
      broken position a b = none ∧ firstPair broken (position + 1) (b :: rest) = none := by
  rw [firstPair]
  cases broken position a b <;> simp

theorem neighboursKeepRules_cons_cons (position : Nat) (a b : Token) (rest : List Token) :
    NeighboursKeepRules position (a :: b :: rest) ↔
      KeepsRules position a b ∧ NeighboursKeepRules (position + 1) (b :: rest) := by
  simp only [NeighboursKeepRules, KeepsRules, firstPair_cons_cons_eq_none_iff]
  constructor
  · rintro ⟨⟨h₁, k₁⟩, ⟨h₂, k₂⟩, ⟨h₃, k₃⟩, h₄, k₄⟩
    exact ⟨⟨h₁, h₂, h₃, h₄⟩, k₁, k₂, k₃, k₄⟩
  · rintro ⟨⟨h₁, h₂, h₃, h₄⟩, k₁, k₂, k₃, k₄⟩
    exact ⟨⟨h₁, k₁⟩, ⟨h₂, k₂⟩, ⟨h₃, k₃⟩, h₄, k₄⟩

theorem keepsRules_iff (position : Nat) {previous next : Token} (hp : previous.isNotation = true)
    (hn : next.isNotation = true) :
    KeepsRules position previous next ↔ next.fits (!previous.endsOperand) = true := by
  -- The rules forbid a pair of kinds exactly where the later token does not fit.
  cases previous <;> cases next <;>
    simp_all [KeepsRules, emptyGroupFault?, adjacentNumbersFault?, adjacencyFault?,
      operatorSequenceFault?, Token.isNotation, Token.isNumber, Token.isOperator, Token.isSign,
      Token.isScale, Token.isParenthesis, Token.followsOpening, Token.endsOperand, Token.fits]

theorem parenthesisFault?_cons_eq_none_iff (place depth : Nat) (t : Token) (tokens : List Token) :
    parenthesisFault? place depth (t :: tokens) = none ↔
      ∃ after, t.depthAfter? depth = some after ∧
        parenthesisFault? (place + 1) after tokens = none := by
  cases t with
  | closing => cases depth <;> simp [parenthesisFault?, Token.depthAfter?]
  | number _ | sign _ | scale _ | opening | other _ =>
      simp [parenthesisFault?, Token.depthAfter?]

/-- Tokens that follow another one are read to a good end if the last of them may be the last, their
parentheses are balanced and no two neighbours break a rule. -/
theorem run?_eq_finished_iff (previous : Token) (tokens : List Token) (depth position place : Nat)
    (hp : previous.isNotation = true) (ht : ∀ t ∈ tokens, t.isNotation = true) :
    Progress.run? ⟨!previous.endsOperand, depth⟩ tokens = some .finished ↔
      (previous :: tokens).getLast?.filter Token.cannotTrail = none ∧
        parenthesisFault? place depth tokens = none ∧
        NeighboursKeepRules position (previous :: tokens) := by
  induction tokens generalizing previous depth position place with
  | nil =>
      cases previous <;> cases depth <;>
        simp_all [Progress.run?, Progress.finished, Token.endsOperand, Token.isNotation,
          Token.isNumber, Token.isOperator, Token.isSign, Token.isScale, Token.isParenthesis,
          Token.cannotTrail, parenthesisFault?, NeighboursKeepRules, firstPair]
  | cons t tokens ih =>
      have hnotation := ht t List.mem_cons_self
      have hrest := fun u hu => ht u (List.mem_cons_of_mem t hu)
      have hrun := fun after => ih t after (position + 1) (place + 1) hnotation hrest
      rw [Progress.run?_cons_eq_some_iff, List.getLast?_cons_cons, neighboursKeepRules_cons_cons,
        keepsRules_iff position hp hnotation, parenthesisFault?_cons_eq_none_iff]
      constructor
      · rintro ⟨hfits, after, hafter, hfinished⟩
        obtain ⟨hlast, hbalanced, hneighbours⟩ := (hrun after).mp hfinished
        exact ⟨hlast, ⟨after, hafter, hbalanced⟩, hfits, hneighbours⟩
      · rintro ⟨hlast, ⟨after, hafter, hbalanced⟩, hfits, hneighbours⟩
        exact ⟨hfits, after, hafter, (hrun after).mpr ⟨hlast, hbalanced, hneighbours⟩⟩

theorem validate_eq_ok_iff_forall (tokens : List Token) :
    validate tokens = .ok tokens ↔
      ∀ rule ∈ Rule.notEmpty :: Rule.inOrder, rule.fault? tokens = none := by
  rw [validate, ← List.findSome?_eq_none_iff]
  split
  next fault hfault => simp [hfault]
  next hnone => simp [hnone]

theorem validate_cons_eq_ok_iff (t : Token) (tokens : List Token) :
    validate (t :: tokens) = .ok (t :: tokens) ↔
      t.cannotLead = false ∧ (t :: tokens).getLast?.filter Token.cannotTrail = none ∧
        parenthesisFault? 0 0 (t :: tokens) = none ∧ NeighboursKeepRules 0 (t :: tokens) := by
  rw [validate_eq_ok_iff_forall]
  simp [Rule.inOrder, Rule.fault?, NeighboursKeepRules]

theorem fits_true_iff {t : Token} (h : t.isNotation = true) :
    t.fits true = true ↔ t.cannotLead = false := by
  cases t <;> simp_all [Token.fits, Token.cannotLead, Token.isNotation, Token.isNumber,
    Token.isOperator, Token.isSign, Token.isScale, Token.isParenthesis]

/-- No rule is broken by what is read from the beginning to a good end, and by nothing else. -/
theorem validate_eq_ok_iff_run? (tokens : List Token) (h : ∀ t ∈ tokens, t.isNotation = true) :
    validate tokens = .ok tokens ↔ Progress.start.run? tokens = some .finished := by
  cases tokens with
  | nil => simp [validate, Rule.fault?, Progress.start, Progress.finished, Progress.run?]
  | cons t tokens =>
      have hnotation := h t List.mem_cons_self
      have hrest := fun u hu => h u (List.mem_cons_of_mem t hu)
      have hrun := fun after => run?_eq_finished_iff t tokens after 0 1 hnotation hrest
      rw [validate_cons_eq_ok_iff, Progress.start, Progress.run?_cons_eq_some_iff,
        fits_true_iff hnotation, parenthesisFault?_cons_eq_none_iff]
      constructor
      · rintro ⟨hlead, hlast, ⟨after, hafter, hbalanced⟩, hneighbours⟩
        exact ⟨hlead, after, hafter, (hrun after).mpr ⟨hlast, hbalanced, hneighbours⟩⟩
      · rintro ⟨hlead, after, hafter, hfinished⟩
        obtain ⟨hlast, hbalanced, hneighbours⟩ := (hrun after).mp hfinished
        exact ⟨hlead, hlast, ⟨after, hafter, hbalanced⟩, hneighbours⟩

/-- Tokens of the notation keep all rules if they are a sum with any number of signs in front of its
operands. -/
theorem validate_eq_ok_iff_exists_derives (tokens : List Token)
    (h : ∀ t ∈ tokens, t.isNotation = true) :
    validate tokens = .ok tokens ↔ ∃ e, Derives Sign.AnyNumber .sum tokens e := by
  rw [validate_eq_ok_iff_run? tokens h, Progress.run?_start_eq_finished_iff]

theorem ask_eq_ok {tokens : List Token} (h : tokens ≠ []) (rule : Rule) :
    rule.ask tokens = .ok (rule.fault? tokens) := by
  cases rule with
  | leadingToken => exact if_neg h
  | trailingToken => exact if_neg h
  | notEmpty | parenthesesBalance | emptyGroup | adjacentNumbers | tokenAdjacency
  | operatorSequence => rfl

theorem exists_fault_of_validate_ne_ok {tokens : List Token} (h : validate tokens ≠ .ok tokens) :
    ∃ fault, validate tokens = .error fault := by
  rw [validate] at h ⊢
  split
  next fault _ => exact ⟨fault, rfl⟩
  next hnone => simp [hnone] at h

/-- Of lists of numerals, operators and parentheses the rules accept the sums with any number of
signs in front of an operand, and refuse all others. -/
theorem validate_accepts_sums (texts : List String)
    (h : ∀ text ∈ texts,
      (Token.ofText text).isNumber = true ∨ text ∈ ["+", "-", "*", "/", "(", ")"]) :
    (validate (texts.map Token.ofText) = .ok (texts.map Token.ofText) ↔
        ∃ e, Derives Sign.AnyNumber .sum (texts.map Token.ofText) e) ∧
      ((¬ ∃ e, Derives Sign.AnyNumber .sum (texts.map Token.ofText) e) →
        ∃ fault, validate (texts.map Token.ofText) = .error fault) := by
  have hnotation : ∀ t ∈ texts.map Token.ofText, t.isNotation = true := by
    intro t ht
    obtain ⟨text, htext, rfl⟩ := List.mem_map.mp ht
    exact Token.isNotation_ofText (h text htext)
  have haccepted := validate_eq_ok_iff_exists_derives (texts.map Token.ofText) hnotation
  refine ⟨haccepted, fun hnone => exists_fault_of_validate_ne_ok fun hok => ?_⟩
  exact hnone (haccepted.mp hok)

theorem validate_accepts_signs_before_group :
    (∀ text ∈ ["-", "-", "(", "1", "*", "+", "2", ")"],
        (Token.ofText text).isNumber = true ∨ text ∈ ["+", "-", "*", "/", "(", ")"]) ∧
      ∃ e, Derives Sign.AnyNumber .sum
        (["-", "-", "(", "1", "*", "+", "2", ")"].map Token.ofText) e := by
  have h : ∀ text ∈ ["-", "-", "(", "1", "*", "+", "2", ")"],
      (Token.ofText text).isNumber = true ∨ text ∈ ["+", "-", "*", "/", "(", ")"] := by decide
  refine ⟨h, (validate_accepts_sums _ h).1.mp ?_⟩
  rfl

end Calculator
