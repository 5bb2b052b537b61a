import Calculator.Proofs.Grammar.Shape
import Calculator.Proofs.Result

/-!
Splitting spans reads a grammar. The search for the operator that is applied last passes over
operands and signs, and finds the last operator of a sum; hence a span has the tree that the grammar
with at most one sign in front of an operand gives it, and none if it is no sum of that grammar.
-/

namespace Calculator

open Derives

namespace Split

variable {admits : List Sign → Prop} {phrase : Phrase} {span left right : List Token}
  {e l r : Expr} {depth : Int}

/-- Signs that no operand ends before are no operators, and inside a group nothing is one. -/
theorem search_signs (run : List Sign) (found : Option Split) (before after : List Token)
    (h : depth ≠ 0 ∨ before.head?.any Token.endsOperand = false) :
    search depth found ((run.map .sign).reverse ++ before) after =
      search depth found before (run.map .sign ++ after) := by
  induction run generalizing before with
  | nil => rfl
  | cons s run ih =>
      rw [List.map_cons, List.reverse_cons, List.append_assoc, List.singleton_append,
        ih (.sign s :: before) (.inr rfl), search, if_neg]
      · rfl
      · rintro ⟨hdepth, hends⟩
        rcases h with h | h
        · exact h hdepth
        · rw [h] at hends
          cases hends

theorem search_inside (d : Derives admits phrase span e) (hdepth : 0 < depth)
    (found : Option Split) (before after : List Token) :
    search depth found (span.reverse ++ before) after =
      search depth found before (span ++ after) := by
  have hne : depth ≠ 0 := Int.ne_of_gt hdepth
  induction d generalizing depth before after with
  | numeral n => simp [search, Token.rise]
  | @group span _ _ ih =>
      have hdeeper : 0 < depth + 1 := Int.add_pos hdepth Int.one_pos
      have hinner := ih hdeeper (.opening :: before) (.closing :: after) (Int.ne_of_gt hdeeper)
      simp only [List.cons_append, List.reverse_cons, List.reverse_append, List.append_assoc,
        List.nil_append, List.reverse_nil, search, Token.rise, hinner]
      rw [Int.add_assoc]
      simp
  | @signs run _ _ _ _ ih =>
      rw [List.reverse_append, List.append_assoc, ih hdepth _ _ hne,
        search_signs run _ _ _ (.inl hne), List.append_assoc]
  | factor _ ih => exact ih hdepth before after hne
  | product _ ih => exact ih hdepth before after hne
  | scaled s _ _ ihl ihr =>
      simp only [reverse_around, ihr hdepth _ _ hne, search, if_neg hne, ihl hdepth _ _ hne,
        List.append_assoc, List.cons_append]
  | added s _ _ ihl ihr =>
      simp only [reverse_around, ihr hdepth _ _ hne, search, hne, false_and, if_false,
        ihl hdepth _ _ hne, List.append_assoc, List.cons_append]

theorem search_operand (d : Derives admits .operand span e) (found : Option Split)
    (before after : List Token) :
    search 0 found (span.reverse ++ before) after = search 0 found before (span ++ after) := by
  cases d with
  | numeral n => simp [search, Token.rise]
  | @group span _ inner =>
      have hinner := search_inside inner Int.one_pos found (.opening :: before) (.closing :: after)
      simp only [List.cons_append, List.reverse_cons, List.reverse_append, List.append_assoc,
        List.nil_append, List.reverse_nil, search, Token.rise, Int.zero_add, hinner]
      rfl

theorem search_factor (d : Derives admits .factor span e) (found : Option Split)
    (before after : List Token) (h : before.head?.any Token.endsOperand = false) :
    search 0 found (span.reverse ++ before) after = search 0 found before (span ++ after) := by
  cases d with
  | @signs run span _ _ operand =>
      rw [List.reverse_append, List.append_assoc, search_operand operand,
        search_signs run _ _ _ (.inr h), List.append_assoc]

/-- With an operator in hand the search passes over a product. -/
theorem search_product (d : Derives admits .product span e) (split : Split)
    (before after : List Token) (h : before.head?.any Token.endsOperand = false) :
    search 0 (some split) (span.reverse ++ before) after =
      search 0 (some split) before (span ++ after) := by
  induction d using product_induction generalizing after with
  | factor whole => exact search_factor whole (some split) before after h
  | @scaled left right _ _ s _ dfactor ih =>
      rw [reverse_around, search_factor dfactor _ _ _ rfl, search]
      simpa using ih (.scale s :: (right ++ after))

/-- A product leaves some operator in hand, or none. -/
theorem exists_search_product (d : Derives admits .product span e) (found : Option Split)
    (before after : List Token) (h : before.head?.any Token.endsOperand = false) :
    ∃ found', search 0 found (span.reverse ++ before) after =
      search 0 found' before (span ++ after) := by
  cases d with
  | factor whole => exact ⟨found, search_factor whole found before after h⟩
  | @scaled s left right _ _ dproduct dfactor =>
      rw [reverse_around, search_factor dfactor _ _ _ rfl, search]
      cases found with
      | none =>
          -- The last operator of the product is taken, and no other one after it.
          refine ⟨some ⟨(left.reverse ++ before).reverse, .multiplicative s, right ++ after⟩, ?_⟩
          simpa using search_product dproduct _ before (.scale s :: (right ++ after)) h
      | some split =>
          refine ⟨some split, ?_⟩
          simpa using search_product dproduct split before (.scale s :: (right ++ after)) h

/-- The last sign between the products of a sum ends the search. -/
theorem search_added (s : Sign) (dl : Derives admits .sum left l)
    (dr : Derives admits .product right r) (before : List Token) (found : Option Split) :
    search 0 found ((left ++ .sign s :: right).reverse ++ before) [] =
      some ⟨(left.reverse ++ before).reverse, .additive s, right⟩ := by
  obtain ⟨found', hright⟩ :=
    exists_search_product dr found (.sign s :: (left.reverse ++ before)) [] rfl
  rw [reverse_around, hright, search, if_pos ⟨rfl, endsOperand_head? dl before⟩, List.append_nil]

theorem main?_added (s : Sign) (dl : Derives admits .sum left l)
    (dr : Derives admits .product right r) :
    main? (left ++ .sign s :: right) = some ⟨left, .additive s, right⟩ := by
  simpa [main?] using search_added s dl dr [] none

theorem main?_scaled (s : Scale) (dl : Derives admits .product left l)
    (dr : Derives admits .factor right r) :
    main? (left ++ .scale s :: right) = some ⟨left, .multiplicative s, right⟩ := by
  have hright := search_factor dr none (.scale s :: left.reverse) [] rfl
  have hleft := search_product dl ⟨left, .multiplicative s, right⟩ [] (.scale s :: right) rfl
  simpa [main?, search, hright] using hleft

end Split

namespace Expr

variable {span inner group : List Token} {e : Expr}

theorem signedGroup?_eq_some_iff (s : Sign) :
    signedGroup? span = some (s, group) ↔
      span = .sign s :: group ∧ ∃ inner, Token.interior? group = some inner := by
  match span with
  | .sign t :: rest =>
      simp only [signedGroup?, Option.isSome_iff_exists, Option.ite_none_right_eq_some,
        Option.some.injEq, Prod.mk.injEq, List.cons.injEq, Token.sign.injEq]
      constructor
      · rintro ⟨hinner, rfl, rfl⟩
        exact ⟨⟨rfl, rfl⟩, hinner⟩
      · rintro ⟨⟨rfl, rfl⟩, hinner⟩
        exact ⟨hinner, rfl, rfl⟩
  | [] | .number _ :: _ | .opening :: _ | .scale _ :: _ | .closing :: _ | .other _ :: _ =>
      simp [signedGroup?]

theorem simple_eq_ok_of_derives (d : Derives Sign.AtMostOne .sum span e) (position : Nat)
    (hinner : Token.interior? span = none) (hshort : span.length ≤ 3) :
    simple position span = .ok e := by
  cases d with
  | added s dl dr =>
      have hleft := dl.length_pos
      have hright := dr.length_pos
      simp only [List.length_append, List.length_cons] at hshort
      obtain ⟨a, rfl, rfl⟩ := dl.eq_number_of_length_le_one (by omega)
      obtain ⟨b, rfl, rfl⟩ := dr.eq_number_of_length_le_one (by omega)
      rfl
  | product dp =>
      cases dp with
      | scaled s dl dr =>
          have hleft := dl.length_pos
          have hright := dr.length_pos
          simp only [List.length_append, List.length_cons] at hshort
          obtain ⟨a, rfl, rfl⟩ := dl.eq_number_of_length_le_one (by omega)
          obtain ⟨b, rfl, rfl⟩ := dr.eq_number_of_length_le_one (by omega)
          rfl
      | factor df =>
          rcases operand_or_signed df with doperand | ⟨s, operand, a, doperand, rfl, rfl⟩
          · cases doperand with
            | numeral n => rfl
            | group dg =>
                nomatch hinner.symm.trans (interior?_group dg)
          · cases doperand with
            | numeral n => rfl
            | group dg =>
                have hpos := dg.length_pos
                simp only [List.length_append, List.length_cons, List.length_nil] at hshort
                omega

/-- A long sum that is neither a group nor a sign before a group is split between two sums. -/
theorem exists_main?_of_derives (d : Derives Sign.AtMostOne .sum span e)
    (hinner : Token.interior? span = none) (hlong : ¬ span.length ≤ 3)
    (hsigned : signedGroup? span = none) :
    ∃ o left right l r, Split.main? span = some ⟨left, o, right⟩ ∧
      Derives Sign.AtMostOne .sum left l ∧ Derives Sign.AtMostOne .sum right r ∧
      e = .binary o l r := by
  cases d with
  | added s dl dr =>
      exact ⟨_, _, _, _, _, Split.main?_added s dl dr, dl, .product dr, rfl⟩
  | product dp =>
      cases dp with
      | scaled s dl dr =>
          exact ⟨_, _, _, _, _, Split.main?_scaled s dl dr, .product dl, .product (.factor dr), rfl⟩
      | factor df =>
          rcases operand_or_signed df with doperand | ⟨s, operand, a, doperand, rfl, rfl⟩
          · cases doperand with
            | numeral n => simp at hlong
            | group dg =>
                nomatch hinner.symm.trans (interior?_group dg)
          · cases doperand with
            | numeral n => simp at hlong
            | group dg =>
                have hfound := (signedGroup?_eq_some_iff s).mpr ⟨rfl, _, interior?_group dg⟩
                nomatch hsigned.symm.trans hfound

/-- Completeness: every sum gets the tree that the grammar gives it. -/
theorem ofSpan_eq_ok_of_derives (d : Derives Sign.AtMostOne .sum span e) (position : Nat) :
    ofSpan position span = .ok e := by
  fun_induction ofSpan position span generalizing e with
  | case1 position span inner hinner ih => exact ih (of_interior? d hinner)
  | case2 position span hinner hshort => exact simple_eq_ok_of_derives d position hinner hshort
  | case3 position span hinner hlong s group hsigned ih =>
      obtain ⟨rfl, inner, hgroup⟩ := (signedGroup?_eq_some_iff s).mp hsigned
      obtain ⟨a, da, rfl⟩ := of_interior?_tail d hgroup
      rw [ih da]
      rfl
  | case4 position span hinner hlong hsigned hmain =>
      obtain ⟨o, left, right, l, r, hfound, -⟩ := exists_main?_of_derives d hinner hlong hsigned
      simp [hmain] at hfound
  | case5 position span hinner hlong hsigned split hmain ihl ihr =>
      obtain ⟨o, left, right, l, r, hfound, dl, dr, rfl⟩ :=
        exists_main?_of_derives d hinner hlong hsigned
      obtain rfl := Option.some.inj (hmain.symm.trans hfound)
      rw [ihl dl, ihr dr]
      rfl

theorem exists_derives_of_simple {position : Nat} (h : simple position span = .ok e) :
    ∃ e, Derives Sign.AtMostOne .sum span e := by
  have hbare : Sign.AtMostOne [] := Nat.zero_le 1
  rw [simple.eq_def] at h
  split at h
  next n => exact ⟨_, toSum hbare (.numeral n)⟩
  next s n => exact ⟨_, toSum hbare (factor_of_signed (Nat.le_refl 1) (.numeral n))⟩
  next a s b =>
    exact exists_append (.additive s) (toSum hbare (.numeral a)) (toSum hbare (.numeral b))
  next a s b =>
    exact exists_append (.multiplicative s) (toSum hbare (.numeral a)) (toSum hbare (.numeral b))
  next => cases h

/-- Soundness: only sums get a tree. -/
theorem exists_derives_of_ofSpan {position : Nat} (h : ofSpan position span = .ok e) :
    ∃ e, Derives Sign.AtMostOne .sum span e := by
  have hbare : Sign.AtMostOne [] := Nat.zero_le 1
  fun_induction ofSpan position span generalizing e with
  | case1 position span inner hinner ih =>
      obtain ⟨rfl, -⟩ := (Token.interior?_eq_some_iff span inner).mp hinner
      obtain ⟨a, da⟩ := ih h
      exact ⟨a, toSum hbare (.group da)⟩
  | case2 position span hinner hshort => exact exists_derives_of_simple h
  | case3 position span hinner hlong s group hsigned ih =>
      obtain ⟨rfl, inner, hgroup⟩ := (signedGroup?_eq_some_iff s).mp hsigned
      obtain ⟨a, ha, -⟩ := exists_of_bind_eq_ok h
      obtain ⟨a, da⟩ := ih ha
      obtain ⟨rfl, -⟩ := (Token.interior?_eq_some_iff group inner).mp hgroup
      -- The group is a sum as a whole; the sign needs it as an operand.
      have doperand := Derives.group (of_interior? da hgroup)
      exact ⟨_, toSum hbare (factor_of_signed (Nat.le_refl 1) doperand)⟩
  | case4 position span hinner hlong hsigned hmain => cases h
  | case5 position span hinner hlong hsigned split hmain ihl ihr =>
      obtain ⟨l, hl, hrest⟩ := exists_of_bind_eq_ok h
      obtain ⟨r, hr, -⟩ := exists_of_bind_eq_ok hrest
      obtain ⟨a, da⟩ := ihl hl
      obtain ⟨b, db⟩ := ihr hr
      rw [← Split.span_of_main? hmain]
      exact exists_append split.operator da db

/-- A span has the tree that the grammar gives it, wherever it stands. -/
theorem ofSpan_eq_ok_iff (position : Nat) (span : List Token) (e : Expr) :
    ofSpan position span = .ok e ↔ Derives Sign.AtMostOne .sum span e := by
  constructor
  · intro h
    -- Some tree stands for the span, and by completeness it is the one that was built.
    obtain ⟨a, da⟩ := exists_derives_of_ofSpan h
    have hbuilt := ofSpan_eq_ok_of_derives da position
    rw [h, Except.ok.injEq] at hbuilt
    exact hbuilt ▸ da
  · exact fun d => ofSpan_eq_ok_of_derives d position

theorem eq_of_derives {f : Expr} (d : Derives Sign.AtMostOne .sum span e)
    (d' : Derives Sign.AtMostOne .sum span f) : e = f := by
  have h := ofSpan_eq_ok_of_derives d 0
  rw [ofSpan_eq_ok_of_derives d' 0, Except.ok.injEq] at h
  exact h.symm

theorem exists_fault_iff_not_derives (position : Nat) (span : List Token) :
    (∃ fault, ofSpan position span = .error fault) ↔
      ¬ ∃ e, Derives Sign.AtMostOne .sum span e := by
  simp only [exists_eq_error_iff, ofSpan_eq_ok_iff]

/-- Texts in a list get a tree if they are a sum with at most one sign in front of an operand. The
tree is the only one of the sum, and every other list is refused. -/
theorem ofTokens_recognizes_sums (texts : List String) :
    (∀ e, ofTokens (texts.map Token.ofText) = .ok e ↔
        Derives Sign.AtMostOne .sum (texts.map Token.ofText) e) ∧
      (∀ e f, Derives Sign.AtMostOne .sum (texts.map Token.ofText) e →
        Derives Sign.AtMostOne .sum (texts.map Token.ofText) f → e = f) ∧
      ((∃ fault, ofTokens (texts.map Token.ofText) = .error fault) ↔
        ¬ ∃ e, Derives Sign.AtMostOne .sum (texts.map Token.ofText) e) := by
  refine ⟨fun e => ?_, fun e f => eq_of_derives, ?_⟩
  · exact ofSpan_eq_ok_iff 0 (texts.map Token.ofText) e
  · exact exists_fault_iff_not_derives 0 (texts.map Token.ofText)

end Expr

end Calculator
