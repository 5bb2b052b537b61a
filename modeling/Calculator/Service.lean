import Calculator.Expression

/-!
The calculator as a service. A request names a route and may carry a body; the response has a status
and a body of its own. A body is checked before its length is, and the length before the expression.
-/

namespace Calculator.Service

structure Settings where
  greatestLength : Int := 10000
  version : String := "0.1.0"

/-- What a request body holds under the name `expression`. -/
inductive Field where
  | missing
  | text (value : String)
  | foreign
deriving DecidableEq, Repr

inductive Payload where
  | absent
  | record (expression : Field)
  | foreign
deriving DecidableEq, Repr

structure Request where
  method : String
  path : String
  payload : Payload
deriving DecidableEq, Repr

inductive Route where
  | evaluate
  | validate
  | health
deriving DecidableEq, Repr

namespace Route

def path : Route → String
  | evaluate => "/evaluate"
  | validate => "/validate"
  | health => "/health"

def method : Route → String
  | evaluate | validate => "POST"
  | health => "GET"

/-- A path without its query and its fragment, with a slash in front and none behind. -/
def plainPath (path : String) : String :=
  let chars := path.toList.takeWhile fun c => c != '?' && c != '#'
  let whole := (chars.reverse.dropWhile (· == '/')).reverse
  String.ofList (if whole.head? = some '/' then whole else '/' :: whole)

def ofPath? (path : String) : Option Route :=
  [evaluate, validate, health].find? fun route => route.path == plainPath path

end Route

inductive PayloadFault where
  | noBody
  | notARecord
  | noExpression
  | notAText
  | emptyText
deriving DecidableEq, Repr

namespace PayloadFault

def kind : PayloadFault → String
  | noBody | noExpression => "missing"
  | notARecord => "model_attributes_type"
  | notAText => "string_type"
  | emptyText => "string_too_short"

def location : PayloadFault → List String
  | noBody | notARecord => ["body"]
  | noExpression | notAText | emptyText => ["body", "expression"]

def message : PayloadFault → String
  | noBody | noExpression => "Field required"
  | notARecord => "Input should be a valid dictionary or object to extract fields from"
  | notAText => "Input should be a valid string"
  | emptyText => "String should have at least 1 character"

end PayloadFault

def Payload.expression : Payload → Except PayloadFault String
  | absent => .error .noBody
  | foreign => .error .notARecord
  | record .missing => .error .noExpression
  | record .foreign => .error .notAText
  | record (.text value) => .ok value

/-- What is said of a trouble: a message, and a code where the trouble has one. -/
structure Detail where
  message : String
  code : Option String := none
deriving DecidableEq, Repr

instance : Coe String Detail where
  coe message := { message }

instance : Coe Detail String where
  coe := Detail.message

def Detail.tooDeep : Detail where
  message := "Expression is nested too deeply."
  code := some "NESTING_TOO_DEEP"

inductive Body where
  /-- The value is left out if it is infinite or no number. -/
  | evaluated (expression : String) (value : Option Float) (display : String) (isFinite : Bool)
      (steps : List String)
  | validated (expression : String) (valid : Bool) (tokens : List Token) (issues : List Issue)
  | healthy (version : String)
  | detail (detail : Detail)
  | rejected (issue : Issue)
  | refused (fault : PayloadFault)

structure Response where
  status : Nat
  body : Body

def evaluateExpression (room : Room) (expression : String) : Response :=
  match calculateWithin room expression with
  | .error (.rejected r) => ⟨422, .rejected r.issue⟩
  | .error .tooDeep => ⟨422, .detail .tooDeep⟩
  | .ok c =>
    let finite := c.value.isFinite
    ⟨200, .evaluated expression (if finite then some c.value else none) (Number.display c.value)
      finite c.lines⟩

def validateExpression (expression : String) : Response :=
  match tokens expression with
  | .error fault => ⟨200, .validated expression false [] [fault.issue]⟩
  | .ok tokens =>
    let issues := (structuralFaults tokens).map StructuralFault.issue
    ⟨200, .validated expression issues.isEmpty tokens issues⟩

def withinLength (settings : Settings) (expression : String) (answer : String → Response) :
    Response :=
  if settings.greatestLength < expression.length then
    ⟨413, .detail s!"Expression longer than {settings.greatestLength} characters."⟩
  else answer expression

def Payload.evaluable (payload : Payload) : Except PayloadFault String := do
  let expression ← payload.expression
  if expression = "" then .error .emptyText else .ok expression

def answerEvaluate (settings : Settings) (room : Room) (payload : Payload) : Response :=
  match payload.evaluable with
  | .error fault => ⟨422, .refused fault⟩
  | .ok expression => withinLength settings expression (evaluateExpression room)

def answerValidate (settings : Settings) (payload : Payload) : Response :=
  match payload.expression with
  | .error fault => ⟨422, .refused fault⟩
  | .ok expression => withinLength settings expression validateExpression

def respond (settings : Settings) (request : Request) (room : Room := .usual) : Response :=
  match Route.ofPath? request.path with
  | none => ⟨404, .detail "Not Found"⟩
  | some route =>
    if route.method ≠ request.method.toUpper then ⟨405, .detail "Method Not Allowed"⟩
    else
      match route with
      | .evaluate => answerEvaluate settings room request.payload
      | .validate => answerValidate settings request.payload
      | .health => ⟨200, .healthy settings.version⟩

end Calculator.Service
