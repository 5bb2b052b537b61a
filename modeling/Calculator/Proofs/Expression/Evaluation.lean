import Calculator.Proofs.Expression.Agreement

namespace Calculator

open Derives Token

variable {text : String} {written : List Token} {e : Expr}

theorem exists_derives_of_parse (h : parse text = .ok e) :
    ∃ written, writtenTokens text = .ok written ∧
      Derives Sign.AtMostOne .sum (mergeSigns written) e := by
  obtain ⟨merged, hmerged, htree⟩ := exists_of_bind_eq_ok (parseUnvalidated_of_parse h)
  obtain ⟨written, hwritten, rfl⟩ := map_eq_ok_iff.mp (mapError_eq_ok_iff.mp hmerged)
  exact ⟨written, hwritten, (Expr.ofSpan_eq_ok_iff 0 _ e).mp (mapError_eq_ok_iff.mp htree)⟩

theorem parse_of_derives (h : writtenTokens text = .ok written)
    (d : Derives Sign.AtMostOne .sum (mergeSigns written) e) : parse text = .ok e := by
  have hmerged : tokens text = .ok (mergeSigns written) := map_eq_ok_iff.mpr ⟨written, h, rfl⟩
  have htree : Expr.ofTokens (mergeSigns written) = .ok e := (Expr.ofSpan_eq_ok_iff 0 _ e).mpr d
  have haccepted := (validate_eq_ok_iff_exists_tree hmerged).mpr ⟨e, htree⟩
  rw [parse_of_validate hmerged haccepted, htree]
  rfl

theorem evaluate_of_derives (h : writtenTokens text = .ok written)
    (d : Derives Sign.AnyNumber .sum written e) : evaluate text = .ok e.evaluate := by
  obtain ⟨b, db, hvalue⟩ := d.exists_mergeSigns
  rw [evaluate, parse_of_derives h db, ← hvalue]
  rfl

theorem exists_parse_iff_exists_evaluate :
    (∃ e, parse text = .ok e) ↔ ∃ a, evaluate text = .ok a := by
  constructor
  · rintro ⟨e, h⟩
    exact ⟨e.evaluate, map_eq_ok_iff.mpr ⟨e, h, rfl⟩⟩
  · rintro ⟨a, h⟩
    obtain ⟨e, he, -⟩ := map_eq_ok_iff.mp h
    exact ⟨e, he⟩

end Calculator
