import Calculator.Issue

/-!
The rules that the tokens of an expression keep. Each rule reports the leftmost place where it is
broken, and the rules are asked in a fixed order.
-/

namespace Calculator

namespace Token

def cannotLead : Token → Bool
  | closing | scale _ => true
  | _ => false

def cannotTrail : Token → Bool
  | opening | sign _ | scale _ => true
  | _ => false

def followsOpening : Token → Bool
  | number _ | sign _ | opening => true
  | _ => false

end Token

/-- The first two neighbours that break a rule; `position` is that of the earlier one. -/
def firstPair (broken : Nat → Token → Token → Option StructuralFault) (position : Nat) :
    List Token → Option StructuralFault
  | a :: b :: rest =>
    (broken position a b).orElse fun _ => firstPair broken (position + 1) (b :: rest)
  | _ => none

/-- The depth of open parentheses never falls below zero and comes back to it. -/
def parenthesisFault? (position depth : Nat) : List Token → Option StructuralFault
  | [] => if depth = 0 then none else some .unequalParentheses
  | .opening :: rest => parenthesisFault? (position + 1) (depth + 1) rest
  | .closing :: rest =>
    match depth with
    | 0 => some (.unopened position)
    | depth + 1 => parenthesisFault? (position + 1) depth rest
  | _ :: rest => parenthesisFault? (position + 1) depth rest

def emptyGroupFault? (position : Nat) : Token → Token → Option StructuralFault
  | .opening, .closing => some (.emptyGroup position)
  | _, _ => none

def adjacentNumbersFault? (position : Nat) (previous next : Token) : Option StructuralFault :=
  if previous.isNumber && next.isNumber then
    some (.adjacentNumbers previous next (position + 1))
  else none

/-- Four rules about parentheses and their neighbours; a pair that breaks several is reported under
the first of them. -/
def adjacencyFault? (position : Nat) (previous next : Token) : Option StructuralFault :=
  if previous = .opening ∧ ¬ next.followsOpening then some (.afterOpening next (position + 1))
  else if previous.endsOperand ∧ next = .opening then some (.beforeOpening previous (position + 1))
  else if previous = .closing ∧ next.isNumber then some (.afterClosing next (position + 1))
  else if previous.isOperator ∧ next = .closing then some (.beforeClosing previous (position + 1))
  else none

def operatorSequenceFault? (position : Nat) (previous next : Token) : Option StructuralFault :=
  if next.isScale && previous.isOperator then
    some (.operatorSequence previous next (position + 1))
  else none

inductive Rule where
  | notEmpty
  | leadingToken
  | trailingToken
  | parenthesesBalance
  | emptyGroup
  | adjacentNumbers
  | tokenAdjacency
  | operatorSequence
deriving DecidableEq, Repr

namespace Rule

def fault? (tokens : List Token) : Rule → Option StructuralFault
  | notEmpty => if tokens = [] then some .empty else none
  | leadingToken => (tokens.head?.filter Token.cannotLead).map .leading
  | trailingToken =>
    (tokens.getLast?.filter Token.cannotTrail).map (.trailing · (tokens.length - 1))
  | parenthesesBalance => parenthesisFault? 0 0 tokens
  | emptyGroup => firstPair emptyGroupFault? 0 tokens
  | adjacentNumbers => firstPair adjacentNumbersFault? 0 tokens
  | tokenAdjacency => firstPair adjacencyFault? 0 tokens
  | operatorSequence => firstPair operatorSequenceFault? 0 tokens

def inOrder : List Rule :=
  [leadingToken, trailingToken, parenthesesBalance, emptyGroup, adjacentNumbers, tokenAdjacency,
    operatorSequence]

/-- The rule is about a token that an empty list does not have. -/
structure NoToken where
deriving DecidableEq, Repr

def NoToken.message : NoToken → String := fun _ => "list index out of range"

/-- Asks one rule by itself; the rules about the first and the last token need a token. -/
def ask (tokens : List Token) : Rule → Except NoToken (Option StructuralFault)
  | leadingToken => if tokens = [] then .error {} else .ok (leadingToken.fault? tokens)
  | trailingToken => if tokens = [] then .error {} else .ok (trailingToken.fault? tokens)
  | rule => .ok (rule.fault? tokens)

end Rule

/-- One fault for each rule that is broken; an empty list breaks no rule but the first. -/
def structuralFaults (tokens : List Token) : List StructuralFault :=
  match Rule.notEmpty.fault? tokens with
  | some fault => [fault]
  | none => Rule.inOrder.filterMap (Rule.fault? tokens)

/-- Asks one rule after another, those about the ends of a list only if there is a token. -/
def askAll (tokens : List Token) : Except Rule.NoToken (List StructuralFault) := do
  let empty ← Rule.notEmpty.ask tokens
  let faults ← if empty.isSome then pure [] else Rule.inOrder.mapM (Rule.ask tokens)
  return (empty :: faults).filterMap id

def validate (tokens : List Token) : Except StructuralFault (List Token) :=
  match (Rule.notEmpty :: Rule.inOrder).findSome? (Rule.fault? tokens) with
  | some fault => .error fault
  | none => .ok tokens

end Calculator
