import Calculator.Expr
import Calculator.Text.Quoted

namespace Calculator

inductive Draft where
  | number (value : Float)
  | unary (operator : String) (operand : Draft)
  | binary (operator : String) (left right : Draft)
  /-- A text where a tree should be. -/
  | foreign
deriving DecidableEq

inductive DraftFault where
  | unaryOperator (text : String)
  | binaryOperator (text : String)
  | foreignNode
deriving DecidableEq, Repr

def DraftFault.message : DraftFault → String
  | unaryOperator text => s!"Unknown unary operator: {Text.quoted text}"
  | binaryOperator text => s!"Unknown binary operator: {Text.quoted text}"
  | foreignNode => "Unknown AST node type: str"

namespace Draft

/-- The expression that a draft stands for. A node is judged before its children, the left one
before the right one. -/
def toExpr : Draft → Except DraftFault Expr
  | number value => .ok (.number value)
  | unary text operand =>
    match Sign.ofText? text with
    | none => .error (.unaryOperator text)
    | some s => do
      let e ← operand.toExpr
      return .unary s e
  | binary text left right =>
    match Operator.ofText? text with
    | none => .error (.binaryOperator text)
    | some o => do
      let l ← left.toExpr
      let r ← right.toExpr
      return .binary o l r
  | foreign => .error .foreignNode

def evaluate (d : Draft) : Except DraftFault Float := d.toExpr.map Expr.evaluate

def calculate (d : Draft) : Except DraftFault Calculation := d.toExpr.map Expr.calculate

end Draft

inductive Proposal where
  | text
  | number (value : Option Float)
  | unary (checked : Bool) (operator : Option String) (operand : Option Proposal)
  | binary (checked : Bool) (operator : Option String) (left right : Option Proposal)
deriving Inhabited

namespace Proposal

/-- A node has all its parts; if it is checked, its operator is one of its kind and its children are
trees. -/
def toDraft? : Proposal → Option Draft
  | text => some .foreign
  | number (some value) => some (.number value)
  | unary checked (some operator) (some operand) => do
    let child ← operand.toDraft?
    if checked ∧ ((Sign.ofText? operator).isNone ∨ child = .foreign) then none
    else some (.unary operator child)
  | binary checked (some operator) (some left) (some right) => do
    let l ← left.toDraft?
    let r ← right.toDraft?
    if checked ∧ ((Operator.ofText? operator).isNone ∨ l = .foreign ∨ r = .foreign) then none
    else some (.binary operator l r)
  | _ => none

end Proposal

end Calculator
