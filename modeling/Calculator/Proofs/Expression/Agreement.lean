import Calculator.Expr.Draft
import Calculator.Expression
import Calculator.Proofs.Expr.Splitting
import Calculator.Proofs.Grammar.Meaning
import Calculator.Proofs.Rules.Acceptance

namespace Calculator

open Token

namespace Progress

theorem run?_sign_cons (p : Progress) (s : Sign) (tokens : List Token) :
    p.run? (.sign s :: tokens) = run? ⟨true, p.depth⟩ tokens := by
  rw [run?_cons, step?_sign, Option.bind_some]

theorem run?_pushSign (p : Progress) (s : Sign) (tokens : List Token) :
    p.run? (pushSign s tokens) = p.run? (.sign s :: tokens) := by
  match tokens with
  | .sign t :: more =>
      change p.run? (.sign (s.combine t) :: more) = _
      rw [run?_sign_cons, run?_sign_cons, run?_sign_cons]
  | [] | .number _ :: _ | .scale _ :: _ | .opening :: _ | .closing :: _ | .other _ :: _ => rfl

theorem run?_mergeSigns (p : Progress) (tokens : List Token) :
    p.run? (mergeSigns tokens) = p.run? tokens := by
  induction tokens generalizing p with
  | nil => rfl
  | cons t tokens ih =>
      cases ht : t.isSign with
      | false =>
          rw [mergeSigns_cons tokens ht, run?_cons, run?_cons]
          exact congrArg _ (funext fun q => ih q)
      | true =>
          match t, ht with
          | .sign s, _ =>
              rw [mergeSigns_sign_cons, run?_pushSign, run?_sign_cons, run?_sign_cons, ih]

end Progress

/-- Merging the signs of a list neither makes it a sum nor keeps it from being one. -/
theorem exists_derives_iff_mergeSigns (written : List Token) :
    (∃ e, Derives Sign.AnyNumber .sum written e) ↔
      ∃ b, Derives Sign.AtMostOne .sum (mergeSigns written) b := by
  constructor
  · rintro ⟨e, d⟩
    obtain ⟨b, db, -⟩ := d.exists_mergeSigns
    exact ⟨b, db⟩
  · rintro ⟨b, db⟩
    -- Signs cannot be unmerged in a derivation, but reading does not tell the two lists apart.
    have hmerged : ∃ e, Derives Sign.AnyNumber .sum (mergeSigns written) e :=
      ⟨b, db.mono fun _ _ => trivial⟩
    rw [← Progress.run?_start_eq_finished_iff, Progress.run?_mergeSigns] at hmerged
    exact (Progress.run?_start_eq_finished_iff written).mp hmerged

variable {text : String} {merged : List Token}

theorem isNotation_of_tokens (h : tokens text = .ok merged) :
    ∀ t ∈ merged, t.isNotation = true := by
  obtain ⟨written, hwritten, rfl⟩ := map_eq_ok_iff.mp h
  exact forall_mem_mergeSigns (fun _ => rfl) (isNotation_of_ofChars hwritten)

theorem validate_eq_ok_iff_written {written : List Token} (h : writtenTokens text = .ok written) :
    validate (mergeSigns written) = .ok (mergeSigns written) ↔
      ∃ e, Derives Sign.AnyNumber .sum written e := by
  have hnotation := isNotation_of_tokens (map_eq_ok_iff.mpr ⟨written, h, rfl⟩)
  rw [validate_eq_ok_iff_run? _ hnotation, Progress.run?_mergeSigns,
    Progress.run?_start_eq_finished_iff]

theorem validate_eq_ok_iff_exists_tree (h : tokens text = .ok merged) :
    validate merged = .ok merged ↔ ∃ e, Expr.ofTokens merged = .ok e := by
  obtain ⟨written, hwritten, rfl⟩ := map_eq_ok_iff.mp h
  rw [validate_eq_ok_iff_written hwritten, exists_derives_iff_mergeSigns]
  simp only [Expr.ofTokens, Expr.ofSpan_eq_ok_iff]

theorem parse_of_tokens (h : tokens text = .ok merged) :
    parse text = (validate merged).mapError .structural >>= fun kept =>
      (Expr.ofTokens kept).mapError .build := by
  rw [parse, h]
  rfl

theorem parse_of_validate (h : tokens text = .ok merged)
    (haccepted : validate merged = .ok merged) :
    parse text = (Expr.ofTokens merged).mapError .build := by
  rw [parse_of_tokens h, haccepted]
  rfl

theorem parseUnvalidated_of_tokens (h : tokens text = .ok merged) :
    parseUnvalidated text = (Expr.ofTokens merged).mapError .build := by
  rw [parseUnvalidated, h]
  rfl

/-- A text has no tokens, or its tokens are accepted and have a tree, or they are refused and have
none. -/
theorem parse_cases (text : String) :
    (∃ fault, parse text = .error (.lexical fault) ∧
        parseUnvalidated text = .error (.lexical fault)) ∨
      (∃ e, parse text = .ok e ∧ parseUnvalidated text = .ok e) ∨
      ∃ fault cause, parse text = .error (.structural fault) ∧
        parseUnvalidated text = .error (.build cause) := by
  cases htokens : tokens text with
  | error fault =>
      refine .inl ⟨fault, ?_, ?_⟩
      · rw [parse, htokens]
        rfl
      · rw [parseUnvalidated, htokens]
        rfl
  | ok merged =>
      have hagree := validate_eq_ok_iff_exists_tree htokens
      have hunvalidated := parseUnvalidated_of_tokens htokens
      rcases Classical.em (validate merged = .ok merged) with haccepted | hrefused
      · obtain ⟨e, he⟩ := hagree.mp haccepted
        refine .inr (.inl ⟨e, ?_, ?_⟩)
        · rw [parse_of_validate htokens haccepted, he]
          rfl
        · rw [hunvalidated, he]
          rfl
      · obtain ⟨fault, hfault⟩ := exists_fault_of_validate_ne_ok hrefused
        obtain ⟨cause, hcause⟩ := exists_eq_error_iff.mpr fun h => hrefused (hagree.mpr h)
        refine .inr (.inr ⟨fault, cause, ?_, ?_⟩)
        · rw [parse_of_tokens htokens, hfault]
          rfl
        · rw [hunvalidated, hcause]
          rfl

theorem lexical_or_structural_of_parse {rejection : Rejection} (h : parse text = .error rejection) :
    (∃ fault, rejection = .lexical fault) ∨ ∃ fault, rejection = .structural fault := by
  rcases parse_cases text with ⟨fault, hparse, -⟩ | ⟨e, hparse, -⟩ | ⟨fault, cause, hparse, -⟩
  · rw [hparse, Except.error.injEq] at h
    exact .inl ⟨fault, h.symm⟩
  · simp [hparse] at h
  · rw [hparse, Except.error.injEq] at h
    exact .inr ⟨fault, h.symm⟩

theorem parseUnvalidated_of_parse {e : Expr} (h : parse text = .ok e) :
    parseUnvalidated text = .ok e := by
  rcases parse_cases text with ⟨fault, hparse, -⟩ | ⟨a, hparse, htree⟩ | ⟨fault, cause, hparse, -⟩
  · simp [hparse] at h
  · rw [hparse] at h
    rw [htree, h]
  · simp [hparse] at h

theorem lexical_iff_unvalidated (fault : LexicalFault) :
    parse text = .error (.lexical fault) ↔ parseUnvalidated text = .error (.lexical fault) := by
  rcases parse_cases text with
    ⟨f, hparse, hbuilt⟩ | ⟨e, hparse, hbuilt⟩ | ⟨f, cause, hparse, hbuilt⟩
  · rw [hparse, hbuilt]
  · simp [hparse, hbuilt]
  · simp [hparse, hbuilt]

theorem build_iff_structural :
    (∃ cause, parseUnvalidated text = .error (.build cause)) ↔
      ∃ fault, parse text = .error (.structural fault) := by
  rcases parse_cases text with
    ⟨f, hparse, hbuilt⟩ | ⟨e, hparse, hbuilt⟩ | ⟨f, cause, hparse, hbuilt⟩
  · simp [hparse, hbuilt]
  · simp [hparse, hbuilt]
  · simp [hparse, hbuilt]

theorem ofText?_text_sign (s : Sign) : Sign.ofText? s.text = some s := by
  cases s with
  | plus => rfl
  | minus => rfl

theorem ofText?_text_operator (o : Operator) : Operator.ofText? o.text = some o := by
  cases o with
  | additive s => cases s <;> rfl
  | multiplicative s => cases s <;> rfl

/-- A tree as it would come from outside, with texts for its operators. -/
def Expr.toDraft : Expr → Draft
  | number value => .number value
  | unary s e => .unary s.text e.toDraft
  | binary o l r => .binary o.text l.toDraft r.toDraft

theorem toExpr_toDraft (e : Expr) : e.toDraft.toExpr = .ok e := by
  induction e with
  | number value => rfl
  | unary s e ih =>
      rw [Expr.toDraft, Draft.toExpr, ofText?_text_sign, ih]
      rfl
  | binary o l r ihl ihr =>
      rw [Expr.toDraft, Draft.toExpr, ofText?_text_operator, ihl, ihr]
      rfl

/-- A text is refused for its characters or by a rule. The rules accept its tokens if they have a
tree, so that without the rules the same trees are built and what a rule would refuse has none; and
nothing is at fault inside: every rule finds the tokens it asks about, the tree has no unknown
operator, and a run of signs is one. -/
theorem rules_agree_with_trees (text : String) :
    (∀ merged, tokens text = .ok merged →
        (validate merged = .ok merged ↔ ∃ e, Expr.ofTokens merged = .ok e)) ∧
      (∀ rejection, parse text = .error rejection ∨ evaluate text = .error rejection ∨
          calculate text = .error rejection →
        (∃ fault, rejection = .lexical fault) ∨ ∃ fault, rejection = .structural fault) ∧
      (∀ e, parse text = .ok e → parseUnvalidated text = .ok e) ∧
      (∀ fault, parse text = .error (.lexical fault) ↔
        parseUnvalidated text = .error (.lexical fault)) ∧
      ((∃ cause, parseUnvalidated text = .error (.build cause)) ↔
        ∃ fault, parse text = .error (.structural fault)) ∧
      (∀ merged, tokens text = .ok merged → Rule.notEmpty.fault? merged = none →
        ∀ rule : Rule, rule.ask merged = .ok (rule.fault? merged)) ∧
      (∀ e, parse text = .ok e →
        e.toDraft.evaluate = .ok e.evaluate ∧ e.toDraft.calculate = .ok e.calculate) ∧
      (∀ (s : Sign) (run : List Sign),
        Sign.ofRunText (String.join ((s :: run).map Sign.text)) = .ok (Sign.ofRun (s :: run))) := by
  refine ⟨fun merged => validate_eq_ok_iff_exists_tree, ?_, fun e => parseUnvalidated_of_parse,
    lexical_iff_unvalidated, build_iff_structural, ?_, ?_, Sign.ofRunText_join⟩
  · rintro rejection (hparse | hvalue | haccount)
    · exact lexical_or_structural_of_parse hparse
    · exact lexical_or_structural_of_parse (map_eq_error_iff.mp hvalue)
    · exact lexical_or_structural_of_parse (map_eq_error_iff.mp haccount)
  · intro merged _ hfilled rule
    refine ask_eq_ok ?_ rule
    rintro rfl
    cases hfilled
  · intro e _
    constructor
    · rw [Draft.evaluate, toExpr_toDraft]
      rfl
    · rw [Draft.calculate, toExpr_toDraft]
      rfl

end Calculator
