import Calculator.Proofs.Expression.Evaluation
import Calculator.Proofs.Number.Division

namespace Calculator

open Number (brief)

namespace Expr

/-- The value by the operations of double arithmetic alone, its division included. -/
def value : Expr → Float
  | number value => value
  | unary .plus e => e.value
  | unary .minus e => -e.value
  | binary (.additive .plus) l r => l.value + r.value
  | binary (.additive .minus) l r => l.value - r.value
  | binary (.multiplicative .times) l r => l.value * r.value
  | binary (.multiplicative .dividedBy) l r => l.value / r.value

/-- The operations of a tree in postorder, each as the part of the tree that it is at the top of. -/
def operations : Expr → List Expr
  | number _ => []
  | unary s e => e.operations ++ [unary s e]
  | binary o l r => l.operations ++ r.operations ++ [binary o l r]

/-- That a line tells of the operation at the top of a tree: its operator, the values of its
operands and the value that they give. -/
inductive ToldBy : Expr → String → Prop where
  | unary (s : Sign) (e : Expr) :
      ToldBy (.unary s e) (s!"{s.text}({brief e.value})" ++ " = " ++ brief (Expr.unary s e).value)
  | binary (o : Operator) (l r : Expr) :
      ToldBy (.binary o l r)
        (s!"{brief l.value} {o.text} {brief r.value}" ++ " = " ++ brief (Expr.binary o l r).value)

theorem evaluate_eq_value (e : Expr) : e.evaluate = e.value := by
  induction e with
  | number value => rfl
  | unary s e ih =>
      rw [evaluate, ih]
      cases s <;> rfl
  | binary o l r ihl ihr =>
      rw [evaluate, ihl, ihr]
      rcases o with (_ | _) | (_ | _)
      · rfl
      · rfl
      · rfl
      · exact Number.quotient_eq_div l.value r.value

theorem calculate_value_eq (e : Expr) : e.calculate.value = e.value :=
  e.calculate_value.trans e.evaluate_eq_value

theorem toldBy_unary (s : Sign) (e : Expr) :
    ToldBy (unary s e) (Step.unary s e.calculate.value).text := by
  have hresult : (Step.unary s e.calculate.value).result = (unary s e).value :=
    calculate_value_eq (unary s e)
  rw [Step.text, hresult, Step.operation, calculate_value_eq]
  exact .unary s e

theorem toldBy_binary (o : Operator) (l r : Expr) :
    ToldBy (binary o l r) (Step.binary o l.calculate.value r.calculate.value).text := by
  have hresult :
      (Step.binary o l.calculate.value r.calculate.value).result = (binary o l r).value :=
    calculate_value_eq (binary o l r)
  rw [Step.text, hresult, Step.operation, calculate_value_eq, calculate_value_eq]
  exact .binary o l r

/-- The lines and the operations of a tree belong together one by one, both in postorder. -/
theorem operations_told_by_lines (e : Expr) :
    List.Forall₂ ToldBy e.operations e.calculate.lines := by
  induction e with
  | number value => exact .nil
  | unary s e ih =>
      rw [operations, calculate, Calculation.lines, List.map_append]
      exact List.rel_append ih (.cons (toldBy_unary s e) .nil)
  | binary o l r ihl ihr =>
      rw [operations, calculate, Calculation.lines, List.map_append, List.map_append]
      exact List.rel_append (List.rel_append ihl ihr) (.cons (toldBy_binary o l r) .nil)

theorem ToldBy.exists_eq {e : Expr} {line : String} (h : ToldBy e line) :
    ∃ operation, line = operation ++ " = " ++ brief e.value := by
  cases h with
  | unary s e => exact ⟨_, rfl⟩
  | binary o l r => exact ⟨_, rfl⟩

theorem getLast?_lines {e : Expr} {line : String} (h : e.calculate.lines.getLast? = some line) :
    ∃ operation, line = operation ++ " = " ++ brief e.value := by
  cases e with
  | number value => cases h
  | unary s e =>
      rw [calculate, Calculation.lines, List.map_append] at h
      obtain rfl := Option.some.inj (List.getLast?_concat.symm.trans h)
      exact (toldBy_unary s e).exists_eq
  | binary o l r =>
      rw [calculate, Calculation.lines, List.map_append] at h
      obtain rfl := Option.some.inj (List.getLast?_concat.symm.trans h)
      exact (toldBy_binary o l r).exists_eq

theorem length_operations_unary (s : Sign) (e : Expr) :
    (unary s e).operations.length = e.operations.length + 1 :=
  List.length_append

theorem length_operations_binary (o : Operator) (l r : Expr) :
    (binary o l r).operations.length = l.operations.length + r.operations.length + 1 := by
  rw [operations, List.length_append, List.length_append, List.length_singleton]

theorem length_operations_signed (run : List Sign) (e : Expr) :
    (e.signed run).operations.length = run.length + e.operations.length := by
  induction run with
  | nil => exact (Nat.zero_add _).symm
  | cons s run ih =>
      rw [signed, List.foldr_cons, length_operations_unary, ← signed, ih, List.length_cons]
      omega

end Expr

open Token

variable {admits : List Sign → Prop} {phrase : Phrase} {span merged : List Token} {e : Expr}
  {text : String} {c : Calculation}

theorem countP_isOperator_around {left right : List Token} {t : Token} (h : t.isOperator = true) :
    (left ++ t :: right).countP isOperator =
      left.countP isOperator + right.countP isOperator + 1 := by
  rw [List.countP_append, List.countP_cons_of_pos h, Nat.add_assoc]

/-- Every operator of a phrase is one operation of its tree. -/
theorem Derives.length_operations (d : Derives admits phrase span e) :
    e.operations.length = span.countP isOperator := by
  induction d with
  | numeral n => rfl
  | group _ ih =>
      rw [ih, List.countP_append, List.countP_cons_of_neg (by decide)]
      rfl
  | @signs run span e _ _ ih =>
      have hrun : (run.map sign).countP isOperator = run.length := by
        rw [List.countP_map]
        exact List.countP_eq_length.mpr fun s _ => rfl
      rw [Expr.length_operations_signed, List.countP_append, hrun, ih]
  | factor _ ih => exact ih
  | scaled s _ _ ihl ihr =>
      rw [Expr.length_operations_binary, ihl, ihr, countP_isOperator_around rfl]
  | product _ ih => exact ih
  | added s _ _ ihl ihr =>
      rw [Expr.length_operations_binary, ihl, ihr, countP_isOperator_around rfl]

theorem exists_parse_of_calculate (h : calculate text = .ok c) :
    ∃ e, parse text = .ok e ∧ e.calculate = c :=
  map_eq_ok_iff.mp h

theorem evaluate_eq_map_calculate (text : String) :
    evaluate text = (calculate text).map Calculation.value := by
  rw [evaluate, calculate]
  cases parse text with
  | error rejection => rfl
  | ok e => exact congrArg Except.ok e.calculate_value.symm

theorem exists_tokens_of_calculate (h : calculate text = .ok c) :
    ∃ merged, tokens text = .ok merged ∧ c.lines.length = merged.countP isOperator := by
  obtain ⟨e, hparse, rfl⟩ := exists_parse_of_calculate h
  obtain ⟨written, hwritten, d⟩ := exists_derives_of_parse hparse
  refine ⟨mergeSigns written, map_eq_ok_iff.mpr ⟨written, hwritten, rfl⟩, ?_⟩
  rw [← d.length_operations]
  exact e.operations_told_by_lines.length_eq.symm

/-- The account of a calculation tells of every operation once, after those of its operands, with
the values that are calculated with. A text has an account if it has a value; the account has as
many lines as operators are left when its signs are merged, and its last line ends with the value.
-/
theorem account_tells_every_operation :
    (∀ e : Expr, e.toDraft.evaluate = .ok e.value ∧ e.toDraft.calculate = .ok e.calculate ∧
        e.calculate.value = e.evaluate ∧ e.evaluate = e.value ∧
        List.Forall₂ Expr.ToldBy e.operations e.calculate.lines) ∧
      ∀ text : String, evaluate text = (calculate text).map Calculation.value ∧
        ∀ c, calculate text = .ok c →
          (∃ merged, tokens text = .ok merged ∧ c.lines.length = merged.countP isOperator) ∧
            ∀ line, c.lines.getLast? = some line →
              ∃ operation, line = operation ++ " = " ++ brief c.value := by
  refine ⟨fun e => ⟨?_, ?_, e.calculate_value, e.evaluate_eq_value, e.operations_told_by_lines⟩,
    fun text => ⟨evaluate_eq_map_calculate text, fun c h => ⟨exists_tokens_of_calculate h, ?_⟩⟩⟩
  · rw [Draft.evaluate, toExpr_toDraft, ← e.evaluate_eq_value]
    rfl
  · rw [Draft.calculate, toExpr_toDraft]
    rfl
  · intro line hlast
    obtain ⟨e, -, rfl⟩ := exists_parse_of_calculate h
    rw [e.calculate_value_eq]
    exact Expr.getLast?_lines hlast

end Calculator
