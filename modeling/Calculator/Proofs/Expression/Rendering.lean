import Calculator.Formula
import Calculator.Proofs.Expression.Evaluation
import Calculator.Proofs.Number.Division
import Calculator.Proofs.Token.Reading

namespace Calculator

open Token

namespace Derives

variable {admits : List Sign → Prop} {phrase : Phrase} {span : List Token} {e : Expr}

theorem isNotation (d : Derives admits phrase span e) : ∀ t ∈ span, t.isNotation = true := by
  induction d with
  | numeral n => simp [Token.isNotation, isNumber]
  | group _ ih =>
      intro t ht
      simp only [List.cons_append, List.mem_cons, List.mem_append, List.not_mem_nil, or_false] at ht
      rcases ht with rfl | ht | rfl
      · rfl
      · exact ih t ht
      · rfl
  | signs _ _ ih =>
      intro t ht
      rcases List.mem_append.mp ht with ht | ht
      · obtain ⟨s, -, rfl⟩ := List.mem_map.mp ht
        rfl
      · exact ih t ht
  | factor _ ih => exact ih
  | scaled s _ _ ihl ihr =>
      intro t ht
      rcases List.mem_append.mp ht with ht | ht
      · exact ihl t ht
      · rcases List.mem_cons.mp ht with rfl | ht
        · rfl
        · exact ihr t ht
  | product _ ih => exact ih
  | added s _ _ ihl ihr =>
      intro t ht
      rcases List.mem_append.mp ht with ht | ht
      · exact ihl t ht
      · rcases List.mem_cons.mp ht with rfl | ht
        · rfl
        · exact ihr t ht

theorem firstPair_adjacentNumbers (d : Derives Sign.AnyNumber .sum span e) :
    firstPair adjacentNumbersFault? 0 span = none := by
  have haccepted := (validate_eq_ok_iff_exists_derives span d.isNotation).mpr ⟨e, d⟩
  have hrule : Rule.adjacentNumbers ∈ Rule.notEmpty :: Rule.inOrder := by decide
  exact (validate_eq_ok_iff_forall span).mp haccepted _ hrule

end Derives

variable {text : String} {span left right : List Token} {e : Expr}

theorem writtenTokens_of_spells (d : Derives Sign.AnyNumber .sum span e)
    (h : Spells span text.toList) : writtenTokens text = .ok span :=
  writtenTokens_eq_ok_iff.mpr (h.ofChars?_eq d.isNotation d.firstPair_adjacentNumbers)

theorem parse_of_spells (d : Derives Sign.AtMostOne .sum span e) (hmerged : mergeSigns span = span)
    (h : Spells span text.toList) : parse text = .ok e := by
  have hwritten := writtenTokens_of_spells (d.mono fun _ _ => trivial) h
  refine parse_of_derives hwritten ?_
  rwa [hmerged]

namespace Token

theorem mergeSigns_enclosed (asked : Bool) (h : mergeSigns span = span) :
    mergeSigns (enclosed asked span) = enclosed asked span := by
  cases asked with
  | false => exact h
  | true => rw [enclosed, if_pos rfl, mergeSigns_group, h]

theorem leadsWithSign_enclosed {asked : Bool} (h : asked = false → leadsWithSign span = false) :
    leadsWithSign (enclosed asked span) = false := by
  cases asked with
  | false => exact h rfl
  | true => rfl

theorem getLast?_enclosed (asked : Bool) (h : span.getLast?.any isSign = false) :
    (enclosed asked span).getLast?.any isSign = false := by
  cases asked with
  | false => exact h
  | true =>
      rw [enclosed, if_pos rfl, List.getLast?_append]
      rfl

theorem enclosed_ne_nil (asked : Bool) (h : span ≠ []) : enclosed asked span ≠ [] := by
  cases asked with
  | false => exact h
  | true => exact List.cons_ne_nil _ _

theorem mergeSigns_sign_cons_of_not_leads (s : Sign) (h : mergeSigns span = span)
    (hlead : leadsWithSign span = false) : mergeSigns (.sign s :: span) = .sign s :: span := by
  rw [mergeSigns_sign_cons, h, pushSign_of_leadsWithSign s hlead]

theorem mergeSigns_around (o : Operator) (hl : mergeSigns left = left)
    (hlast : left.getLast?.any isSign = false) (hr : mergeSigns right = right)
    (hlead : leadsWithSign right = false) :
    mergeSigns (left ++ o.token :: right) = left ++ o.token :: right := by
  rw [mergeSigns_append_of_getLast? _ hlast, hl]
  cases o with
  | additive s => exact congrArg _ (mergeSigns_sign_cons_of_not_leads s hr hlead)
  | multiplicative s => exact congrArg _ ((mergeSigns_cons right rfl).trans (congrArg _ hr))

end Token

namespace Formula

open Derives

theorem atMostOne_nil : Sign.AtMostOne [] := Nat.zero_le 1

theorem atMostOne_singleton (s : Sign) : Sign.AtMostOne [s] := Nat.le_refl 1

theorem mergeSigns_fullTokens (f : Formula) : mergeSigns f.fullTokens = f.fullTokens := by
  have derives := Derives.fullTokens atMostOne_nil atMostOne_singleton
  induction f with
  | number n => rfl
  | unary s f ih =>
      have hlead := (derives f).leadsWithSign_operand
      exact mergeSigns_enclosed true (mergeSigns_sign_cons_of_not_leads s ih hlead)
  | binary o l r ihl ihr =>
      have hlast := (derives l).getLast?_isSign
      have hlead := (derives r).leadsWithSign_operand
      exact mergeSigns_enclosed true (mergeSigns_around o ihl hlast ihr hlead)

theorem briefTokens_ne_nil (f : Formula) : f.briefTokens ≠ [] :=
  (Derives.briefTokens atMostOne_nil atMostOne_singleton f).span_ne_nil

/-- Only what is a sign before an operand begins with a sign when it is written. -/
theorem leadsWithSign_briefTokens (f : Formula) (h : ∀ s g, f ≠ unary s g) :
    leadsWithSign f.briefTokens = false := by
  induction f with
  | number n => rfl
  | unary s f _ => exact absurd rfl (h s f)
  | binary o l r ihl _ =>
      rw [briefTokens, leadsWithSign_append _ (enclosed_ne_nil _ l.briefTokens_ne_nil)]
      refine leadsWithSign_enclosed fun hbare => ihl ?_
      rintro s g rfl
      cases hbare

theorem leadsWithSign_rightOf (o : Operator) (f : Formula) :
    leadsWithSign (enclosed (f.enclosedRightOf o) f.briefTokens) = false := by
  refine leadsWithSign_enclosed fun hbare => f.leadsWithSign_briefTokens ?_
  rintro s g rfl
  cases hbare

theorem leadsWithSign_behindSign (f : Formula) :
    leadsWithSign (enclosed (!f.isNumber) f.briefTokens) = false := by
  refine leadsWithSign_enclosed fun hbare => f.leadsWithSign_briefTokens ?_
  rintro s g rfl
  cases hbare

theorem mergeSigns_briefTokens (f : Formula) : mergeSigns f.briefTokens = f.briefTokens := by
  induction f with
  | number n => rfl
  | unary s f ih =>
      exact mergeSigns_sign_cons_of_not_leads s (mergeSigns_enclosed _ ih)
        f.leadsWithSign_behindSign
  | binary o l r ihl ihr =>
      have dl := Derives.briefTokens atMostOne_nil atMostOne_singleton l
      have hlast := getLast?_enclosed (l.enclosedLeftOf o) dl.getLast?_isSign
      exact mergeSigns_around o (mergeSigns_enclosed _ ihl) hlast (mergeSigns_enclosed _ ihr)
        (r.leadsWithSign_rightOf o)

theorem evaluate_toExpr (f : Formula) : f.toExpr.evaluate = f.value := by
  induction f with
  | number n => rfl
  | unary s f ih =>
      rw [toExpr, Expr.evaluate, ih]
      cases s <;> rfl
  | binary o l r ihl ihr =>
      rw [toExpr, Expr.evaluate, ihl, ihr]
      rcases o with (_ | _) | (_ | _)
      · rfl
      · rfl
      · rfl
      · exact Number.quotient_eq_div l.value r.value

theorem parse_of_spells_tokens {f : Formula}
    (h : Spells f.fullTokens text.toList ∨ Spells f.briefTokens text.toList) :
    parse text = .ok f.toExpr := by
  rcases h with hfull | hbrief
  · have d := Derives.fullTokens atMostOne_nil atMostOne_singleton f
    exact parse_of_spells (toSum atMostOne_nil d) f.mergeSigns_fullTokens hfull
  · have d := Derives.briefTokens atMostOne_nil atMostOne_singleton f
    exact parse_of_spells (toSum atMostOne_nil d) f.mergeSigns_briefTokens hbrief

theorem evaluate_of_parse {f : Formula} (h : parse text = .ok f.toExpr) :
    evaluate text = .ok f.value := by
  rw [evaluate, h, ← evaluate_toExpr]
  rfl

/-- A formula that is written down, with all parentheses or with those that it needs and with any
blanks between its tokens, is read as its tree, and evaluated as in double arithmetic. -/
theorem written_and_read_back (f : Formula) (text : String)
    (h : Spells f.fullTokens text.toList ∨ Spells f.briefTokens text.toList) :
    parse text = .ok f.toExpr ∧ evaluate text = .ok f.value :=
  ⟨parse_of_spells_tokens h, evaluate_of_parse (parse_of_spells_tokens h)⟩

theorem read_back_below_zero_divisor :
    ∃ f : Formula,
      f = binary (.additive .minus) (number ⟨1, [], []⟩)
        (binary (.multiplicative .dividedBy)
          (binary (.additive .minus) (number ⟨2, [], []⟩) (unary .minus (number ⟨3, [], [5]⟩)))
          (number ⟨0, [], []⟩)) ∧
      Spells f.briefTokens "1 - ( 2 - ( - 3.5 ) ) / 0".toList ∧
      parse "1 - ( 2 - ( - 3.5 ) ) / 0" = .ok f.toExpr ∧
      evaluate "1 - ( 2 - ( - 3.5 ) ) / 0" = .ok (-Number.infinity) := by
  refine ⟨_, rfl, ?_⟩
  have hspelled := spells_joined (briefTokens (binary (.additive .minus) (number ⟨1, [], []⟩)
    (binary (.multiplicative .dividedBy)
      (binary (.additive .minus) (number ⟨2, [], []⟩) (unary .minus (number ⟨3, [], [5]⟩)))
      (number ⟨0, [], []⟩))))
  obtain ⟨hparse, hvalue⟩ := written_and_read_back _ "1 - ( 2 - ( - 3.5 ) ) / 0" (.inr hspelled)
  exact ⟨hspelled, hparse, hvalue⟩

end Formula

end Calculator
