import Calculator.Expr

/-!
The grammar of the notation, with the tree that each derivation stands for. A sum is made of
products, a product of factors, and both group to the left; a factor is an operand with signs in
front of it, and an operand is a numeral or a sum in parentheses. Grammars differ in the runs of
signs that they admit.
-/

namespace Calculator

inductive Phrase where
  | operand
  | factor
  | product
  | sum
deriving DecidableEq, Repr

/-- Signs in front of an expression, the last of them applied first. -/
def Expr.signed (run : List Sign) (e : Expr) : Expr := run.foldr .unary e

/-- That a list of tokens is a phrase of a kind and stands for a tree, where `admits` says which
runs of signs may stand in front of an operand. -/
inductive Derives (admits : List Sign → Prop) : Phrase → List Token → Expr → Prop where
  | numeral (n : Numeral) : Derives admits .operand [.number n] (.number n.value)
  | group {span : List Token} {e : Expr} (inner : Derives admits .sum span e) :
      Derives admits .operand (.opening :: span ++ [.closing]) e
  | signs {run : List Sign} {span : List Token} {e : Expr} (admitted : admits run)
      (operand : Derives admits .operand span e) :
      Derives admits .factor (run.map .sign ++ span) (e.signed run)
  | factor {span : List Token} {e : Expr} (whole : Derives admits .factor span e) :
      Derives admits .product span e
  | scaled (s : Scale) {left right : List Token} {l r : Expr}
      (product : Derives admits .product left l) (factor : Derives admits .factor right r) :
      Derives admits .product (left ++ .scale s :: right) (.binary (.multiplicative s) l r)
  | product {span : List Token} {e : Expr} (whole : Derives admits .product span e) :
      Derives admits .sum span e
  | added (s : Sign) {left right : List Token} {l r : Expr}
      (sum : Derives admits .sum left l) (product : Derives admits .product right r) :
      Derives admits .sum (left ++ .sign s :: right) (.binary (.additive s) l r)

namespace Derives

variable {admits more : List Sign → Prop} {phrase : Phrase} {span : List Token} {e : Expr}

theorem mono (h : ∀ run, admits run → more run) (d : Derives admits phrase span e) :
    Derives more phrase span e := by
  induction d with
  | numeral n => exact .numeral n
  | group _ ih => exact .group ih
  | signs admitted _ ih => exact .signs (h _ admitted) ih
  | factor _ ih => exact .factor ih
  | scaled s _ _ ihl ihr => exact .scaled s ihl ihr
  | product _ ih => exact .product ih
  | added s _ _ ihl ihr => exact .added s ihl ihr

theorem toSum (h : admits []) (d : Derives admits phrase span e) : Derives admits .sum span e := by
  cases phrase with
  | operand => exact .product (.factor (.signs h d))
  | factor => exact .product (.factor d)
  | product => exact .product d
  | sum => exact d

theorem span_ne_nil (d : Derives admits phrase span e) : span ≠ [] := by
  induction d with
  | numeral n => simp
  | group _ _ => simp
  | signs _ _ ih => simp [ih]
  | factor _ ih => exact ih
  | scaled s _ _ _ _ => simp
  | product _ ih => exact ih
  | added s _ _ _ _ => simp

end Derives

end Calculator
