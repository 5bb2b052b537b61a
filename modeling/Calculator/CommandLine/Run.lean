import Calculator.CommandLine.Invocation
import Calculator.CommandLine.Journal
import Calculator.Text.Scripts
import Calculator.Text.Lines
import Calculator.Text.Table

namespace Calculator.CommandLine

inductive Failure where
  | unknownLevel (name : String)
  /-- The text is asked for by its option, which has no value. -/
  | blankText
deriving DecidableEq, Repr

def Failure.message : Failure → String
  | unknownLevel name => s!"Unknown level: {Text.quoted name}"
  | blankText => "The text has no value."

/-- What a run depends on besides its arguments and its input: the room for its computations, how
the notice that there is none left ends for a text in normal form, and whether two hyphens that are
attached to an option are its value. -/
structure Host where
  room : Room
  detail : String → String
  keepsHyphens : Bool
  isPrintableText_detail : ∀ text, Text.IsPrintableText (detail text).toList

namespace Host

def usual : Host where
  room := .usual
  detail _ := ""
  keepsHyphens := true
  isPrintableText_detail _ := by decide

/-- Two hyphens that are attached to an option are dropped. -/
def older : Host where
  room := .usual
  detail _ := " in comparison"
  keepsHyphens := false
  isPrintableText_detail _ := by decide

/-- What is said of a text when there is no room left for it. -/
def notice (host : Host) (text : String) : String :=
  "maximum recursion depth exceeded" ++ host.detail (normalize text)

def message (host : Host) (text : String) : Halt → String
  | .rejected r => r.issue.message
  | .tooDeep => host.notice text

end Host

structure Outcome where
  exit : Nat
  output : String := ""
  errors : String := ""
  failure : Option Failure := none
deriving DecidableEq, Repr

def pageWidth : Nat := 200

def levels : List String :=
  ["CRITICAL", "FATAL", "ERROR", "WARN", "WARNING", "INFO", "DEBUG", "NOTSET"]

/-- The level of a run, in capitals; without one, or with an empty one, it is the usual one. -/
def levelName : Setting → String
  | .unset | .blank | .value "" => "INFO"
  | .value name => Text.inCapitals name

def showsEvents (level : String) : Bool := level == "DEBUG" || level == "NOTSET"

def printed (lines : List String) : String := String.join (lines.map (· ++ "\n"))

/-- The line about an error, with the code in front of the message if there is one. -/
def errorLine (code : Option Code) (message : String) : String :=
  match code with
  | some code => s!"Error: [{code.text}] {message}\n"
  | none => s!"Error: {message}\n"

def stepsTable (steps : List String) : Text.Table where
  title := s!"Steps [{steps.length}]"
  columns := [⟨"#", .right⟩, ⟨"Step", .left⟩]
  rows := steps.zipIdx.map fun (step, i) => [toString (i + 1), step]

def issuesTable (issues : List Issue) : Text.Table where
  title := s!"Issues [{issues.length}]"
  columns := [⟨"Code", .left⟩, ⟨"Pos", .right⟩, ⟨"Token", .left⟩, ⟨"Message", .left⟩]
  rows := issues.map fun issue =>
    [issue.code.text, (issue.position.map toString).getD "-", issue.token.getD "-", issue.message]

def resultLine (value : Float) : String := s!"Result: {Number.display value}"

def evalOutcome (host : Host) (steps : Bool) (text : String) : Outcome :=
  match calculateWithin host.room text with
  | .error halt => { exit := 1, errors := errorLine halt.code? (host.message text halt) }
  | .ok c =>
    let table := if steps then (stepsTable c.lines).lines else []
    { exit := 0, output := printed (resultLine c.value :: table) }

def tokensOutcome (text : String) : Outcome :=
  match tokens text with
  | .error fault => { exit := 1, errors := errorLine fault.issue.code fault.issue.message }
  | .ok [] => { exit := 0, output := printed ["(no tokens)"] }
  | .ok tokens => { exit := 0, output := printed (Text.wrap pageWidth (Token.joined tokens)) }

def checkOutcome (text : String) : Outcome :=
  match issues text with
  | [] => { exit := 0, output := printed ["OK: no issues found."] }
  | issues => { exit := 1, output := printed (issuesTable issues).lines }

def replLines (input : List Char) : List String :=
  ((Text.lines input).takeWhile (! Text.isBlankText ·)).map String.ofList

def replAnswer (host : Host) (line : String) : String :=
  match evaluateWithin host.room line with
  | .ok value => resultLine value
  | .error halt => s!"Error: {host.message line halt}"

def greeting : String := "Enter an expression per line (empty line or EOF to quit):"

def replOutcome (host : Host) (lines : List String) : Outcome :=
  { exit := 0, output := printed (greeting :: lines.map (replAnswer host)) }

def Invocation.expression? (invocation : Invocation) (input : List Char) : Option String :=
  match invocation.text with
  | .unset => some (String.ofList input)
  | .blank => none
  | .value text => some text

def Invocation.journal (host : Host) (invocation : Invocation) (input : List Char) : List Event :=
  match invocation.command, invocation.expression? input with
  | .repl, _ => (replLines input).flatMap (Journal.ofParse host.room.building)
  | _, none => []
  | .eval, some text => Journal.ofCalculation host.room text
  | .tokens, some text | .check, some text => Journal.ofTokens text

def Invocation.outcome (host : Host) (invocation : Invocation) (input : List Char) : Outcome :=
  match invocation.command, invocation.expression? input with
  | .repl, _ => replOutcome host (replLines input)
  | _, none => { exit := 1, failure := some .blankText }
  | .eval, some text => evalOutcome host invocation.steps text
  | .tokens, some text => tokensOutcome text
  | .check, some text => checkOutcome text

def Refusal.outcome (refusal : Refusal) : Outcome :=
  match refusal.stop with
  | .help => { exit := 0, output := refusal.topic.help }
  | .fault fault =>
    { exit := 2
      errors := refusal.topic.usage ++ s!"{refusal.topic.name}: error: {fault.message}\n" }

def isLevel (level : String) : Bool := levels.contains level

def readsInput (arguments : List String) (host : Host := .older) : Bool :=
  match Invocation.ofArguments host.keepsHyphens arguments with
  | .error _ => false
  | .ok invocation =>
    isLevel (levelName invocation.level) &&
      (invocation.command == .repl || invocation.text == .unset)

/-- One run. The events of the journal come before the error that the command reports. -/
def run (arguments : List String) (input : String) (host : Host := .older) : Outcome :=
  match Invocation.ofArguments host.keepsHyphens arguments with
  | .error refusal => refusal.outcome
  | .ok invocation =>
    let level := levelName invocation.level
    if !isLevel level then
      { exit := 1, failure := some (.unknownLevel level) }
    else
      let input := Text.readNewlines input.toList
      let outcome := invocation.outcome host input
      if showsEvents level then
        { outcome with
          errors := String.join ((invocation.journal host input).map Event.line) ++ outcome.errors }
      else outcome

end Calculator.CommandLine
