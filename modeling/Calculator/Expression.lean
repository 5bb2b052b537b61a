import Calculator.Text.Blank
import Calculator.Token.Lexer
import Calculator.Token.SignRun
import Calculator.Rules
import Calculator.Expr.Builder

/-!
Expressions as text, from characters to a value. The text is brought to its normal form and read as
tokens, runs of signs are merged, the rules are asked, and the tree is built and evaluated.
-/

namespace Calculator

def writtenTokens (text : String) : Except LexicalFault (List Token) :=
  Token.ofChars (normalChars text.toList)

/-- The tokens of a text with its runs of signs merged. -/
def tokens (text : String) : Except LexicalFault (List Token) :=
  (writtenTokens text).map Token.mergeSigns

def parse (text : String) : Except Rejection Expr := do
  let tokens ← (tokens text).mapError .lexical
  let tokens ← (validate tokens).mapError .structural
  (Expr.ofTokens tokens).mapError .build

/-- The tree of an expression whose tokens are taken as they are, without the rules. -/
def parseUnvalidated (text : String) : Except Rejection Expr := do
  let tokens ← (tokens text).mapError .lexical
  (Expr.ofTokens tokens).mapError .build

def evaluate (text : String) : Except Rejection Float :=
  (parse text).map Expr.evaluate

def calculate (text : String) : Except Rejection Calculation :=
  (parse text).map Expr.calculate

/-- How many calls may be open at once while a tree is built and while it is evaluated. -/
structure Room where
  building : Nat
  evaluating : Nat
deriving DecidableEq, Repr

def Room.usual : Room := ⟨990, 990⟩

/-- What keeps a text from having a value: it is rejected, or its tree is too deep for the room that
there is. -/
inductive Halt where
  | rejected (rejection : Rejection)
  | tooDeep
deriving DecidableEq

namespace Halt

def code? : Halt → Option Code
  | rejected r => some r.issue.code
  | tooDeep => none

def ofBuild : Option BuildFault → Halt
  | some fault => rejected (.build fault)
  | none => tooDeep

end Halt

def parseWithin (levels : Nat) (text : String) : Except Halt Expr := do
  let tokens ← (tokens text).mapError fun fault => .rejected (.lexical fault)
  let tokens ← (validate tokens).mapError fun fault => .rejected (.structural fault)
  (Expr.ofSpanWithin levels 0 tokens).mapError Halt.ofBuild

def calculateWithin (room : Room) (text : String) : Except Halt Calculation := do
  let e ← parseWithin room.building text
  match e.calculateWithin room.evaluating with
  | some c => .ok c
  | none => .error .tooDeep

def evaluateWithin (room : Room) (text : String) : Except Halt Float :=
  (calculateWithin room text).map Calculation.value

def sameTree (a b : String) : Except Rejection Bool := do
  let a ← parse a
  let b ← parse b
  return a.same b

/-- All faults of an expression: the first one of its characters, or all of its tokens. -/
def issues (text : String) : List Issue :=
  match tokens text with
  | .error fault => [fault.issue]
  | .ok tokens => (structuralFaults tokens).map StructuralFault.issue

end Calculator
