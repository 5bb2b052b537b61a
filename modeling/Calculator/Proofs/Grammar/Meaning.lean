import Calculator.Proofs.Grammar.Shape
import Calculator.Proofs.Number.Negation
import Calculator.Proofs.Token.Merging

/-!
What merged signs mean. Merging takes the signs in front of a product into the operator before it,
so that they bind less tightly than they are written; the tree becomes another one and keeps its
value.
-/

namespace Calculator

open Derives Token

namespace Sign

variable (s t : Sign) (a b : Float)

theorem apply_apply : s.apply (t.apply a) = (s.combine t).apply a := by
  cases s with
  | plus => rfl
  | minus =>
      cases t with
      | plus => rfl
      | minus => exact Number.neg_neg a

/-- A sign in front of what is added goes into the operator. -/
theorem additive_apply :
    (Operator.additive s).apply a (t.apply b) = (Operator.additive (s.combine t)).apply a b := by
  cases t with
  | plus => cases s <;> rfl
  | minus =>
      cases s with
      | plus => exact Number.add_neg a b
      | minus => exact Number.sub_neg a b

/-- A sign in front of the first factor is one in front of the product. -/
theorem apply_multiplicative (o : Scale) :
    (Operator.multiplicative o).apply (s.apply a) b =
      s.apply ((Operator.multiplicative o).apply a b) := by
  cases s with
  | plus => rfl
  | minus =>
      cases o with
      | times => exact Number.neg_mul a b
      | dividedBy => exact Number.quotient_neg a b

end Sign

theorem Expr.evaluate_signed (run : List Sign) (e : Expr) :
    (e.signed run).evaluate = (Sign.ofRun run).apply e.evaluate := by
  induction run with
  | nil => rfl
  | cons s run ih =>
      change s.apply (e.signed run).evaluate = (s.combine (Sign.ofRun run)).apply e.evaluate
      rw [ih, Sign.apply_apply]

namespace Derives

variable {admits : List Sign → Prop} {phrase : Phrase} {span body : List Token} {e b : Expr}

theorem leadsWithSign_operand (d : Derives admits .operand span e) :
    leadsWithSign span = false := by
  cases d with
  | numeral n => rfl
  | group _ => rfl

theorem getLast?_isSign (d : Derives admits phrase span e) :
    span.getLast?.any isSign = false := by
  have hlast := d.endsOperand_head? []
  rw [List.append_nil, List.head?_reverse] at hlast
  cases h : span.getLast? with
  | none => rfl
  | some t =>
      rw [h] at hlast
      cases t with
      | sign s => cases hlast
      | number _ | scale _ | opening | closing | other _ => rfl

theorem exists_signed_factor (s : Sign) (d : Derives Sign.AtMostOne .factor span e)
    (h : leadsWithSign span = false) :
    ∃ c, Derives Sign.AtMostOne .factor (.sign s :: span) c ∧
      c.evaluate = s.apply e.evaluate := by
  rcases operand_or_signed d with doperand | ⟨t, operand, a, -, rfl, -⟩
  · exact ⟨.unary s e, factor_of_signed (Nat.le_refl 1) doperand, rfl⟩
  · cases h

theorem exists_signed_product (s : Sign) (d : Derives Sign.AtMostOne .product span e)
    (h : leadsWithSign span = false) :
    ∃ c, Derives Sign.AtMostOne .product (.sign s :: span) c ∧
      c.evaluate = s.apply e.evaluate := by
  induction d using product_induction with
  | factor whole =>
      obtain ⟨c, dc, hc⟩ := exists_signed_factor s whole h
      exact ⟨c, .factor dc, hc⟩
  | @scaled left right l r o dproduct dfactor ih =>
      rw [leadsWithSign_append _ dproduct.span_ne_nil] at h
      obtain ⟨c, dc, hc⟩ := ih h
      refine ⟨.binary (.multiplicative o) c r, .scaled o dc dfactor, ?_⟩
      rw [Expr.evaluate, hc, Sign.apply_multiplicative]
      rfl

/-- That a phrase has a tree of the same value when its signs are merged. -/
def KeepsValue (phrase : Phrase) (span : List Token) (e : Expr) : Prop :=
  ∃ b, Derives Sign.AtMostOne phrase (mergeSigns span) b ∧ b.evaluate = e.evaluate

/-- That the signs in front of a phrase can be taken off before the others are merged, and be
applied to the value of the rest. -/
def TakesSignsOff (phrase : Phrase) (span : List Token) (e : Expr) : Prop :=
  ∃ run body b, span = run.map .sign ++ body ∧ leadsWithSign body = false ∧
    Derives Sign.AtMostOne phrase (mergeSigns body) b ∧
    e.evaluate = (Sign.ofRun run).apply b.evaluate

/-- What merging does to a phrase. Only of a factor or a product it is known that signs in front of
it are in front of all of it. -/
def Merges : Phrase → List Token → Expr → Prop
  | .operand => KeepsValue .operand
  | .factor => TakesSignsOff .factor
  | .product => TakesSignsOff .product
  | .sum => KeepsValue .sum

/-- Signs that have been taken off are put back as one sign. -/
theorem keepsValue_of_takesSignsOff
    (signed : ∀ {span e} (s : Sign), Derives Sign.AtMostOne phrase span e →
      leadsWithSign span = false →
      ∃ c, Derives Sign.AtMostOne phrase (.sign s :: span) c ∧ c.evaluate = s.apply e.evaluate)
    (h : TakesSignsOff phrase span e) : KeepsValue phrase span e := by
  obtain ⟨run, body, b, rfl, hbody, d, hvalue⟩ := h
  cases run with
  | nil => exact ⟨b, d, hvalue.symm⟩
  | cons s run =>
      have hmerged := (leadsWithSign_mergeSigns body).trans hbody
      obtain ⟨c, dc, hc⟩ := signed (Sign.ofRun (s :: run)) d hmerged
      refine ⟨c, ?_, ?_⟩
      · rw [mergeSigns_signs_append s run hbody]
        exact dc
      · rw [hc, hvalue]

theorem merges_group (h : KeepsValue .sum span e) :
    KeepsValue .operand (.opening :: span ++ [.closing]) e := by
  obtain ⟨b, d, hvalue⟩ := h
  have hlast : leadsWithSign [.closing] = false := rfl
  have hmerged : mergeSigns (.opening :: span ++ [.closing]) =
      .opening :: mergeSigns span ++ [.closing] := mergeSigns_append (.opening :: span) hlast
  refine ⟨b, ?_, hvalue⟩
  rw [hmerged]
  exact .group d

theorem merges_signs (run : List Sign) (doperand : Derives admits .operand span e)
    (h : KeepsValue .operand span e) :
    TakesSignsOff .factor (run.map .sign ++ span) (e.signed run) := by
  obtain ⟨b, d, hvalue⟩ := h
  have dfactor := factor_of_operand (Nat.zero_le 1) d
  refine ⟨run, span, b, rfl, leadsWithSign_operand doperand, dfactor, ?_⟩
  rw [Expr.evaluate_signed, hvalue]

theorem merges_scaled {left right : List Token} {l r : Expr} (o : Scale)
    (hl : TakesSignsOff .product left l) (hr : KeepsValue .factor right r) :
    TakesSignsOff .product (left ++ .scale o :: right) (.binary (.multiplicative o) l r) := by
  obtain ⟨run, body, a, rfl, hbody, da, ha⟩ := hl
  obtain ⟨c, dc, hc⟩ := hr
  have hne : body ≠ [] := by
    rintro rfl
    exact da.span_ne_nil rfl
  refine ⟨run, body ++ .scale o :: right, .binary (.multiplicative o) a c, ?_, ?_, ?_, ?_⟩
  · rw [List.append_assoc]
  · rw [leadsWithSign_append _ hne, hbody]
  · rw [mergeSigns_append body rfl]
    exact .scaled o da dc
  · rw [Expr.evaluate, Expr.evaluate, ha, hc, Sign.apply_multiplicative]

/-- The sign between a sum and a product takes in the signs in front of the product. -/
theorem merges_added {left right : List Token} {l r : Expr} (s : Sign)
    (dl : Derives admits .sum left l) (hl : KeepsValue .sum left l)
    (hr : TakesSignsOff .product right r) :
    KeepsValue .sum (left ++ .sign s :: right) (.binary (.additive s) l r) := by
  obtain ⟨a, da, ha⟩ := hl
  obtain ⟨run, body, b, rfl, hbody, db, hb⟩ := hr
  refine ⟨.binary (.additive (Sign.ofRun (s :: run))) a b, ?_, ?_⟩
  · rw [mergeSigns_append_of_getLast? _ dl.getLast?_isSign, ← List.cons_append, ← List.map_cons,
      mergeSigns_signs_append s run hbody]
    exact .added _ da db
  · rw [Expr.evaluate, Expr.evaluate, ha, hb, Sign.additive_apply]
    rfl

theorem merges_of_derives (d : Derives Sign.AnyNumber phrase span e) : Merges phrase span e := by
  induction d with
  | numeral n => exact ⟨.number n.value, .numeral n, rfl⟩
  | group _ ih => exact merges_group ih
  | @signs run span e _ doperand ih => exact merges_signs run doperand ih
  | factor _ ih =>
      obtain ⟨run, body, b, hspan, hbody, db, hb⟩ := ih
      exact ⟨run, body, b, hspan, hbody, .factor db, hb⟩
  | scaled o _ _ ihl ihr =>
      exact merges_scaled o ihl (keepsValue_of_takesSignsOff exists_signed_factor ihr)
  | product _ ih =>
      obtain ⟨b, db, hb⟩ := keepsValue_of_takesSignsOff exists_signed_product ih
      exact ⟨b, .product db, hb⟩
  | added s dl _ ihl ihr => exact merges_added s dl ihl ihr

/-- A sum with any number of signs in front of its operands is, when its signs are merged, a sum
with at most one and of the same value. -/
theorem exists_mergeSigns (d : Derives Sign.AnyNumber .sum span e) :
    ∃ b, Derives Sign.AtMostOne .sum (mergeSigns span) b ∧ b.evaluate = e.evaluate :=
  merges_of_derives d

end Derives

end Calculator
