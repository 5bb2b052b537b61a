import Calculator.Proofs.Expression.Evaluation
import Calculator.Proofs.Grammar.Groups
import Calculator.Proofs.Token.Merging
import Calculator.Proofs.Token.Spacing

namespace Calculator

open Derives Token

variable {u v s s' text : String} {written : List Token} {e : Expr} {a b : Float}

theorem writtenTokens_append_group_iff :
    writtenTokens (u ++ "(" ++ s ++ ")" ++ v) = .ok written ↔
      ∃ before inner after, writtenTokens u = .ok before ∧ writtenTokens s = .ok inner ∧
        writtenTokens v = .ok after ∧
        before ++ .opening :: (inner ++ .closing :: after) = written := by
  have hopening : ∀ chars, ofChars? ('(' :: chars) = (ofChars? chars).map (.opening :: ·) :=
    ofChars?_symbol_cons rfl rfl
  have hclosing : ∀ chars, ofChars? (')' :: chars) = (ofChars? chars).map (.closing :: ·) :=
    ofChars?_symbol_cons rfl rfl
  have hplain : plainChar '(' = '(' ∧ plainChar ')' = ')' := by decide
  have hparts : (u ++ "(" ++ s ++ ")" ++ v).toList.map plainChar =
      u.toList.map plainChar ++
        '(' :: (s.toList.map plainChar ++ ')' :: v.toList.map plainChar) := by
    simp [hplain]
  simp only [writtenTokens_eq_ok_iff]
  rw [hparts, ofChars?_append (.inr rfl), hopening, ofChars?_append (.inr rfl), hclosing]
  simp only [Option.bind_eq_some_iff, Option.map_eq_some_iff]
  constructor
  · rintro ⟨before, hu, _, ⟨_, ⟨inner, hs, _, ⟨after, hv, rfl⟩, rfl⟩, rfl⟩, rfl⟩
    exact ⟨before, inner, after, hu, hs, hv, rfl⟩
  · rintro ⟨before, inner, after, hu, hs, hv, rfl⟩
    exact ⟨before, hu, _, ⟨_, ⟨inner, hs, _, ⟨after, hv, rfl⟩, rfl⟩, rfl⟩, rfl⟩

theorem evaluate_eq_ok_iff :
    evaluate text = .ok a ↔
      ∃ written e, writtenTokens text = .ok written ∧
        Derives Sign.AnyNumber .sum written e ∧ e.evaluate = a := by
  constructor
  · intro h
    obtain ⟨tree, htree, -⟩ := map_eq_ok_iff.mp h
    obtain ⟨written, hwritten, dtree⟩ := exists_derives_of_parse htree
    obtain ⟨e, d⟩ := (exists_derives_iff_mergeSigns written).mpr ⟨tree, dtree⟩
    have hvalue := h.symm.trans (evaluate_of_derives hwritten d)
    exact ⟨written, e, hwritten, d, (Except.ok.inj hvalue).symm⟩
  · rintro ⟨written, e, hwritten, d, rfl⟩
    exact evaluate_of_derives hwritten d

theorem evaluate_append_group (h : evaluate s = .ok a) (h' : evaluate s' = .ok a)
    (hwhole : evaluate (u ++ "(" ++ s ++ ")" ++ v) = .ok b) :
    evaluate (u ++ "(" ++ s' ++ ")" ++ v) = .ok b := by
  obtain ⟨inner, i, hinner, di, hi⟩ := evaluate_eq_ok_iff.mp h
  obtain ⟨inner', i', hinner', di', hi'⟩ := evaluate_eq_ok_iff.mp h'
  obtain ⟨written, e, hwritten, d, rfl⟩ := evaluate_eq_ok_iff.mp hwhole
  obtain ⟨before, inside, after, hu, hs, hv, hspan⟩ := writtenTokens_append_group_iff.mp hwritten
  obtain rfl : inner = inside := Except.ok.inj (hinner.symm.trans hs)
  obtain ⟨e', d', he'⟩ := d.replacesGroup di di' (hi'.trans hi.symm) before after hspan.symm
  have hwritten' := writtenTokens_append_group_iff.mpr ⟨before, inner', after, hu, hinner', hv, rfl⟩
  exact evaluate_eq_ok_iff.mpr ⟨_, e', hwritten', d', he'⟩

theorem parse_group (h : parse s = .ok e) : parse ("(" ++ s ++ ")") = .ok e := by
  obtain ⟨inner, hinner, d⟩ := exists_derives_of_parse h
  have hempty : writtenTokens "" = .ok [] := writtenTokens_eq_ok_iff.mpr ofChars?_nil
  have hwritten := writtenTokens_append_group_iff.mpr ⟨[], inner, [], hempty, hinner, hempty, rfl⟩
  rw [String.empty_append, String.append_empty] at hwritten
  refine parse_of_derives hwritten ?_
  rw [List.nil_append, ← List.cons_append, mergeSigns_group]
  exact toSum (Nat.zero_le 1) (.group d)

/-- Of a group only the value counts: where one text in parentheses may stand another of the same
value may, and the whole has the same value then. The parentheses themselves change no tree. -/
theorem group_counts_by_value (u v s s' : String) (a : Float) (h : evaluate s = .ok a)
    (h' : evaluate s' = .ok a) :
    ((∃ e, parse (u ++ "(" ++ s ++ ")" ++ v) = .ok e) ↔
        ∃ e, parse (u ++ "(" ++ s' ++ ")" ++ v) = .ok e) ∧
      (∀ b, evaluate (u ++ "(" ++ s ++ ")" ++ v) = .ok b ↔
        evaluate (u ++ "(" ++ s' ++ ")" ++ v) = .ok b) ∧
      ∃ e, parse s = .ok e ∧ parse ("(" ++ s ++ ")") = .ok e := by
  have hvalue : ∀ b, evaluate (u ++ "(" ++ s ++ ")" ++ v) = .ok b ↔
      evaluate (u ++ "(" ++ s' ++ ")" ++ v) = .ok b :=
    fun b => ⟨evaluate_append_group h h', evaluate_append_group h' h⟩
  obtain ⟨e, he⟩ := exists_parse_iff_exists_evaluate.mpr ⟨a, h⟩
  refine ⟨?_, hvalue, e, he, parse_group he⟩
  rw [exists_parse_iff_exists_evaluate, exists_parse_iff_exists_evaluate]
  exact exists_congr hvalue

theorem group_of_negative_zero_counts_by_value :
    evaluate "0 * -1" = .ok (-0) ∧ evaluate "-0" = .ok (-0) ∧
      (evaluate "2 / -((0 * -1) )" = .ok Number.infinity ↔
        evaluate "2 / -((-0) )" = .ok Number.infinity) ∧
      evaluate "2 / -((-0) )" = .ok Number.infinity := by
  have h : evaluate "0 * -1" = .ok (-0) := by decide +kernel
  have h' : evaluate "-0" = .ok (-0) := by decide +kernel
  obtain ⟨-, hvalue, -⟩ := group_counts_by_value "2 / -(" " )" "0 * -1" "-0" (-0) h h'
  exact ⟨h, h', hvalue Number.infinity, by decide +kernel⟩

end Calculator
