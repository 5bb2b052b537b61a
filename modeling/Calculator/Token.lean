import Calculator.Numeral

namespace Calculator

inductive Sign where
  | plus
  | minus
deriving DecidableEq, Repr

/-- The operators that bind more tightly than signs do. -/
inductive Scale where
  | times
  | dividedBy
deriving DecidableEq, Repr

inductive Operator where
  | additive (sign : Sign)
  | multiplicative (scale : Scale)
deriving DecidableEq, Repr

inductive Token where
  | number (numeral : Numeral)
  | sign (sign : Sign)
  | scale (scale : Scale)
  | opening
  | closing
  | other (text : String)
deriving DecidableEq

namespace Sign

def text : Sign → String
  | plus => "+"
  | minus => "-"

def combine : Sign → Sign → Sign
  | plus, s => s
  | minus, plus => minus
  | minus, minus => plus

def ofText? : String → Option Sign
  | "+" => some plus
  | "-" => some minus
  | _ => none

end Sign

namespace Scale

def text : Scale → String
  | times => "*"
  | dividedBy => "/"

end Scale

namespace Operator

def text : Operator → String
  | additive s => s.text
  | multiplicative s => s.text

def token : Operator → Token
  | additive s => .sign s
  | multiplicative s => .scale s

def ofText? : String → Option Operator
  | "+" => some (additive .plus)
  | "-" => some (additive .minus)
  | "*" => some (multiplicative .times)
  | "/" => some (multiplicative .dividedBy)
  | _ => none

end Operator

namespace Token

def text : Token → String
  | number n => n.text
  | sign s => s.text
  | scale s => s.text
  | opening => "("
  | closing => ")"
  | other t => t

def ofText : String → Token
  | "+" => sign .plus
  | "-" => sign .minus
  | "*" => scale .times
  | "/" => scale .dividedBy
  | "(" => opening
  | ")" => closing
  | t => ((Numeral.ofChars? t.toList).map number).getD (other t)

def isNumber : Token → Bool
  | number _ => true
  | _ => false

def isSign : Token → Bool
  | sign _ => true
  | _ => false

def isScale : Token → Bool
  | scale _ => true
  | _ => false

def isOperator (t : Token) : Bool := t.isSign || t.isScale

def isParenthesis : Token → Bool
  | opening | closing => true
  | _ => false

/-- A numeral or a closing parenthesis: after it a sign joins two operands. -/
def endsOperand : Token → Bool
  | number _ | closing => true
  | _ => false

def joined (tokens : List Token) : String :=
  " ".intercalate (tokens.map text)

end Token

end Calculator
