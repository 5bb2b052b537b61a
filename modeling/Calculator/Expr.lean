import Calculator.Token
import Calculator.Number.Binary64
import Calculator.Number.Layout

namespace Calculator

inductive Expr where
  | number (value : Float)
  | unary (sign : Sign) (operand : Expr)
  | binary (operator : Operator) (left right : Expr)
deriving DecidableEq

namespace Sign

def apply : Sign → Float → Float
  | plus, a => a
  | minus, a => -a

end Sign

namespace Operator

def apply : Operator → Float → Float → Float
  | additive .plus, a, b => a + b
  | additive .minus, a, b => a - b
  | multiplicative .times, a, b => a * b
  | multiplicative .dividedBy, a, b => Number.quotient a b

end Operator

inductive Step where
  | unary (sign : Sign) (operand : Float)
  | binary (operator : Operator) (left right : Float)
deriving DecidableEq

namespace Step

def result : Step → Float
  | unary s a => s.apply a
  | binary o a b => o.apply a b

def operation : Step → String
  | unary s a => s!"{s.text}({Number.brief a})"
  | binary o a b => s!"{Number.brief a} {o.text} {Number.brief b}"

def text (step : Step) : String := s!"{step.operation} = {Number.brief step.result}"

end Step

structure Calculation where
  value : Float
  steps : List Step
deriving DecidableEq

def Calculation.lines (c : Calculation) : List String := c.steps.map Step.text

namespace Expr

def evaluate : Expr → Float
  | number value => value
  | unary s e => s.apply e.evaluate
  | binary o l r => o.apply l.evaluate r.evaluate

/-- The value with the account of it; the value of a part is found once and used in all steps. -/
def calculate : Expr → Calculation
  | number value => ⟨value, []⟩
  | unary s e =>
    let c := e.calculate
    ⟨s.apply c.value, c.steps ++ [.unary s c.value]⟩
  | binary o l r =>
    let a := l.calculate
    let b := r.calculate
    ⟨o.apply a.value b.value, a.steps ++ b.steps ++ [.binary o a.value b.value]⟩

/-- The calculation where only so many calls may be open at once, one for each level of the tree. -/
def calculateWithin : Nat → Expr → Option Calculation
  | 0, _ => none
  | _ + 1, number value => some ⟨value, []⟩
  | levels + 1, unary s e => do
    let c ← calculateWithin levels e
    return ⟨s.apply c.value, c.steps ++ [.unary s c.value]⟩
  | levels + 1, binary o l r => do
    let a ← calculateWithin levels l
    let b ← calculateWithin levels r
    return ⟨o.apply a.value b.value, a.steps ++ b.steps ++ [.binary o a.value b.value]⟩

theorem calculate_value (e : Expr) : e.calculate.value = e.evaluate := by
  induction e with
  | number value => rfl
  | unary s e ih => simp [calculate, evaluate, ih]
  | binary o l r ihl ihr => simp [calculate, evaluate, ihl, ihr]

/-- The same operators in the same places, and equal numbers in the leaves; the two zeros are
equal. -/
def same : Expr → Expr → Bool
  | number a, number b => a == b
  | unary s e, unary s' e' => s == s' && e.same e'
  | binary o l r, binary o' l' r' => o == o' && l.same l' && r.same r'
  | _, _ => false

def outline : Expr → String
  | number value => Number.plain value
  | unary s e => s!"(u{s.text} {e.outline})"
  | binary o l r => s!"({o.text} {l.outline} {r.outline})"

end Expr

end Calculator
