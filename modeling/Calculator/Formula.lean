import Calculator.Grammar

namespace Calculator

inductive Formula where
  | number (numeral : Numeral)
  | unary (sign : Sign) (operand : Formula)
  | binary (operator : Operator) (left right : Formula)
deriving DecidableEq

def Operator.rank : Operator → Nat
  | additive _ => 0
  | multiplicative _ => 1

def Token.enclosed (asked : Bool) (span : List Token) : List Token :=
  if asked then .opening :: span ++ [.closing] else span

namespace Formula

def toExpr : Formula → Expr
  | number n => .number n.value
  | unary s f => .unary s f.toExpr
  | binary o l r => .binary o l.toExpr r.toExpr

/-- The value by the operations of double arithmetic alone, its division included. -/
def value : Formula → Float
  | number n => n.value
  | unary .plus f => f.value
  | unary .minus f => -f.value
  | binary (.additive .plus) l r => l.value + r.value
  | binary (.additive .minus) l r => l.value - r.value
  | binary (.multiplicative .times) l r => l.value * r.value
  | binary (.multiplicative .dividedBy) l r => l.value / r.value

/-- Every operation in parentheses. -/
def fullTokens : Formula → List Token
  | number n => [.number n]
  | unary s f => Token.enclosed true (.sign s :: f.fullTokens)
  | binary o l r => Token.enclosed true (l.fullTokens ++ o.token :: r.fullTokens)

def isNumber : Formula → Bool
  | number _ => true
  | _ => false

def enclosedLeftOf (o : Operator) : Formula → Bool
  | number _ => false
  | unary _ _ => true
  | binary inner _ _ => inner.rank < o.rank

/-- Whether a formula needs parentheses on the right of an operator; operators of one rank group
to the left. -/
def enclosedRightOf (o : Operator) : Formula → Bool
  | number _ => false
  | unary _ _ => true
  | binary inner _ _ => inner.rank ≤ o.rank

/-- Only those operations in parentheses that would be taken apart without them. -/
def briefTokens : Formula → List Token
  | number n => [.number n]
  | unary s f => .sign s :: Token.enclosed (!f.isNumber) f.briefTokens
  | binary o l r =>
    Token.enclosed (l.enclosedLeftOf o) l.briefTokens ++
      o.token :: Token.enclosed (r.enclosedRightOf o) r.briefTokens

def phrase : Formula → Phrase
  | number _ => .operand
  | unary _ _ => .factor
  | binary (.multiplicative _) _ _ => .product
  | binary (.additive _) _ _ => .sum

end Formula

namespace Derives

variable {admits : List Sign → Prop}

theorem binary (bare : admits []) (o : Operator) {left right : List Token} {l r : Expr}
    (hl : Derives admits .operand left l) (hr : Derives admits .operand right r) :
    Derives admits .sum (left ++ o.token :: right) (.binary o l r) := by
  cases o with
  | additive s => exact .added s (toSum bare hl) (.factor (.signs bare hr))
  | multiplicative s => exact .product (.scaled s (.factor (.signs bare hl)) (.signs bare hr))

theorem fullTokens (bare : admits []) (single : ∀ s, admits [s]) (f : Formula) :
    Derives admits .operand f.fullTokens f.toExpr := by
  induction f with
  | number n => exact .numeral n
  | unary s f ih => exact .group (.product (.factor (.signs (single s) ih)))
  | binary o l r ihl ihr => exact .group (binary bare o ihl ihr)

theorem enclosed (bare : admits []) {phrase : Phrase} {span : List Token} {e : Expr}
    (d : Derives admits phrase span e) :
    Derives admits .operand (Token.enclosed true span) e :=
  .group (toSum bare d)

section Operands

variable {f : Formula} (bare : admits []) (d : Derives admits f.phrase f.briefTokens f.toExpr)

include bare d

theorem behindSign :
    Derives admits .operand (Token.enclosed (!f.isNumber) f.briefTokens) f.toExpr := by
  cases f with
  | number n => exact d
  | unary _ _ | binary _ _ _ => exact enclosed bare d

theorem leftOfSign (s : Sign) :
    Derives admits .sum
      (Token.enclosed (f.enclosedLeftOf (.additive s)) f.briefTokens) f.toExpr := by
  cases f with
  | number _ | binary _ _ _ => exact toSum bare d
  | unary _ _ => exact toSum bare (enclosed bare d)

theorem rightOfSign (s : Sign) :
    Derives admits .product
      (Token.enclosed (f.enclosedRightOf (.additive s)) f.briefTokens) f.toExpr := by
  cases f with
  | number _ => exact .factor (.signs bare d)
  | unary _ _ => exact .factor (.signs bare (enclosed bare d))
  | binary inner _ _ =>
    cases inner with
    | additive _ => exact .factor (.signs bare (enclosed bare d))
    | multiplicative _ => exact d

theorem leftOfScale (s : Scale) :
    Derives admits .product
      (Token.enclosed (f.enclosedLeftOf (.multiplicative s)) f.briefTokens) f.toExpr := by
  cases f with
  | number _ => exact .factor (.signs bare d)
  | unary _ _ => exact .factor (.signs bare (enclosed bare d))
  | binary inner _ _ =>
    cases inner with
    | additive _ => exact .factor (.signs bare (enclosed bare d))
    | multiplicative _ => exact d

theorem rightOfScale (s : Scale) :
    Derives admits .factor
      (Token.enclosed (f.enclosedRightOf (.multiplicative s)) f.briefTokens) f.toExpr := by
  cases f with
  | number _ => exact .signs bare d
  | unary _ _ => exact .signs bare (enclosed bare d)
  | binary inner _ _ => cases inner <;> exact .signs bare (enclosed bare d)

end Operands

/-- What is written with the least parentheses is the phrase that the formula is. -/
theorem briefTokens (bare : admits []) (single : ∀ s, admits [s]) (f : Formula) :
    Derives admits f.phrase f.briefTokens f.toExpr := by
  induction f with
  | number n => exact .numeral n
  | unary s f ih => exact .signs (single s) (behindSign bare ih)
  | binary o l r ihl ihr =>
    cases o with
    | additive s => exact .added s (leftOfSign bare ihl s) (rightOfSign bare ihr s)
    | multiplicative s => exact .scaled s (leftOfScale bare ihl s) (rightOfScale bare ihr s)

end Derives

end Calculator
