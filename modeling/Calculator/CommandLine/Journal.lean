import Calculator.Expression

namespace Calculator

inductive Event where
  | normalized (text : String)
  | tokenized (tokens : List Token)
  | unstructured (tokens : List Token) (fault : StructuralFault)
  | rejected (text : String) (issue : Issue)
  | evaluated (stepCount : Nat) (value : Float)

namespace Event

def source : Event → String
  | normalized _ | tokenized _ => "expr_calc.parser"
  | unstructured _ _ => "expr_calc.validator"
  | rejected _ _ => "expr_calc"
  | evaluated _ _ => "expr_calc.evaluator"

def message : Event → String
  | normalized text => s!"Normalized {Text.quoted text} -> {Text.quoted (normalize text)}"
  | tokenized tokens => s!"Tokens: {shownSpan tokens}"
  | unstructured tokens fault => s!"Rejected {shownSpan tokens}: {fault.issue.code.text}"
  | rejected text issue =>
    s!"Rejected {Text.quoted text}: {issue.code.text} {issue.message}"
  | evaluated stepCount value => s!"Evaluated AST in {stepCount} steps: {Number.plain value}"

def line (event : Event) : String := s!"DEBUG:{event.source}:{event.message}\n"

end Event

namespace Journal

def ofTokens (text : String) : List Event :=
  .normalized text ::
    match tokens text with
    | .ok tokens => [.tokenized tokens]
    | .error _ => []

def ofParse (levels : Nat) (text : String) : List Event :=
  ofTokens text ++
    match parseWithin levels text with
    | .ok _ | .error .tooDeep => []
    | .error (.rejected r) =>
      let unstructured :=
        match tokens text, r with
        | .ok tokens, .structural fault => [Event.unstructured tokens fault]
        | _, _ => []
      unstructured ++ [.rejected text r.issue]

def ofCalculation (room : Room) (text : String) : List Event :=
  ofParse room.building text ++
    match calculateWithin room text with
    | .ok c => [.evaluated c.steps.length c.value]
    | .error _ => []

end Journal

end Calculator
