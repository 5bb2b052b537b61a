import Calculator.Token
import Calculator.Text.Quoted

namespace Calculator

open Text (quoted quotedList)

inductive Code where
  | invalidCharacter
  | invalidNumber
  | duplicateDecimalPoint
  | emptyExpression
  | invalidLeadingToken
  | invalidTrailingToken
  | unbalancedParentheses
  | emptyGroup
  | adjacentNumbers
  | illegalSequenceAfterOpenParen
  | illegalSequenceBeforeOpenParen
  | illegalSequenceAfterCloseParen
  | illegalSequenceBeforeCloseParen
  | illegalOperatorSequence
  | malformedOperand
  | missingOperator
  | internalError
deriving DecidableEq, Repr

def Code.text : Code → String
  | invalidCharacter => "INVALID_CHARACTER"
  | invalidNumber => "INVALID_NUMBER"
  | duplicateDecimalPoint => "DUPLICATE_DECIMAL_POINT"
  | emptyExpression => "EMPTY_EXPRESSION"
  | invalidLeadingToken => "INVALID_LEADING_TOKEN"
  | invalidTrailingToken => "INVALID_TRAILING_TOKEN"
  | unbalancedParentheses => "UNBALANCED_PARENTHESES"
  | emptyGroup => "EMPTY_GROUP"
  | adjacentNumbers => "ADJACENT_NUMBERS"
  | illegalSequenceAfterOpenParen => "ILLEGAL_SEQUENCE_AFTER_OPEN_PAREN"
  | illegalSequenceBeforeOpenParen => "ILLEGAL_SEQUENCE_BEFORE_OPEN_PAREN"
  | illegalSequenceAfterCloseParen => "ILLEGAL_SEQUENCE_AFTER_CLOSE_PAREN"
  | illegalSequenceBeforeCloseParen => "ILLEGAL_SEQUENCE_BEFORE_CLOSE_PAREN"
  | illegalOperatorSequence => "ILLEGAL_OPERATOR_SEQUENCE"
  | malformedOperand => "MALFORMED_OPERAND"
  | missingOperator => "MISSING_OPERATOR"
  | internalError => "INTERNAL_ERROR"

/-- A fault as it is reported. A position counts characters in a text or tokens in a list. -/
structure Issue where
  code : Code
  message : String
  token : Option String
  position : Option Nat
deriving DecidableEq, Repr

inductive LexicalFault where
  | foreignCharacter (character : Char) (position : Nat)
  | lonePoint (position : Nat)
  /-- The numeral is shown up to its second point, which stands at the position. -/
  | secondPoint (numeral : String) (position : Nat)
deriving DecidableEq, Repr

def LexicalFault.issue : LexicalFault → Issue
  | foreignCharacter c position =>
    let shown := String.singleton c
    ⟨.invalidCharacter, s!"Invalid character {quoted shown} at position {position}.",
      some shown, some position⟩
  | lonePoint position =>
    ⟨.invalidNumber, "Lone decimal point is not a number.", some ".", some position⟩
  | secondPoint numeral position =>
    ⟨.duplicateDecimalPoint, s!"Second decimal point in number {quoted numeral}.",
      some ".", some position⟩

/-- Faults of the order of the tokens. A position is that of the later of two neighbours, but an
empty group stands where it opens. -/
inductive StructuralFault where
  | empty
  | leading (first : Token)
  | trailing (last : Token) (position : Nat)
  | unopened (position : Nat)
  | unequalParentheses
  | emptyGroup (position : Nat)
  | adjacentNumbers (previous next : Token) (position : Nat)
  | afterOpening (next : Token) (position : Nat)
  | beforeOpening (previous : Token) (position : Nat)
  | afterClosing (next : Token) (position : Nat)
  | beforeClosing (previous : Token) (position : Nat)
  | operatorSequence (previous next : Token) (position : Nat)
deriving DecidableEq

def sequenceMessage (previous next : Token) : String :=
  s!"Invalid token sequence: {quoted previous.text} followed by {quoted next.text}."

def StructuralFault.issue : StructuralFault → Issue
  | empty => ⟨.emptyExpression, "Expression is empty or blank.", none, none⟩
  | leading first =>
    ⟨.invalidLeadingToken, s!"Expression cannot start with {quoted first.text}.",
      some first.text, some 0⟩
  | trailing last position =>
    ⟨.invalidTrailingToken, s!"Expression cannot end with {quoted last.text}.",
      some last.text, some position⟩
  | unopened position =>
    ⟨.unbalancedParentheses, s!"Closing parenthesis at token {position} has no matching '('.",
      some Token.closing.text, some position⟩
  | unequalParentheses =>
    ⟨.unbalancedParentheses, "Mismatched number of opening and closing parentheses.", none, none⟩
  | emptyGroup position =>
    ⟨.emptyGroup, "Empty parentheses '()' are not allowed.", some "()", some position⟩
  | adjacentNumbers previous next position =>
    ⟨.adjacentNumbers,
      s!"Two consecutive numbers: {quoted previous.text} followed by {quoted next.text}.",
      some next.text, some position⟩
  | afterOpening next position =>
    ⟨.illegalSequenceAfterOpenParen, sequenceMessage .opening next, some next.text, some position⟩
  | beforeOpening previous position =>
    ⟨.illegalSequenceBeforeOpenParen, sequenceMessage previous .opening,
      some Token.opening.text, some position⟩
  | afterClosing next position =>
    ⟨.illegalSequenceAfterCloseParen, sequenceMessage .closing next, some next.text, some position⟩
  | beforeClosing previous position =>
    ⟨.illegalSequenceBeforeCloseParen, sequenceMessage previous .closing,
      some Token.closing.text, some position⟩
  | operatorSequence previous next position =>
    ⟨.illegalOperatorSequence,
      s!"Illegal operator combination: {quoted previous.text} followed by {quoted next.text}.",
      some next.text, some position⟩

/-- Faults of a span of tokens that is no expression, with the place where the span begins. -/
inductive BuildFault where
  | malformed (span : List Token) (position : Nat)
  | noOperator (span : List Token) (position : Nat)
deriving DecidableEq

def shownSpan (span : List Token) : String := quotedList (span.map Token.text)

def BuildFault.issue : BuildFault → Issue
  | malformed span position =>
    let text := Token.joined span
    ⟨.malformedOperand, s!"Invalid simple expression structure: {shownSpan span}",
      if text = "" then none else some text, some position⟩
  | noOperator span position =>
    ⟨.missingOperator, s!"Operator is missing in {shownSpan span}", none, some position⟩

inductive Rejection where
  | lexical (fault : LexicalFault)
  | structural (fault : StructuralFault)
  | build (fault : BuildFault)
deriving DecidableEq

namespace Rejection

def issue : Rejection → Issue
  | lexical fault => fault.issue
  | structural fault => fault.issue
  | build fault => fault.issue

def kind : Rejection → String
  | lexical _ => "LexicalError"
  | structural _ => "StructuralError"
  | build _ => "BuildError"

def shown (r : Rejection) : String :=
  s!"{r.kind}({r.issue.code.text}: {quoted r.issue.message})"

end Rejection

end Calculator
