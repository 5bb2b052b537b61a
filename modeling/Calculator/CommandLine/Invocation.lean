import Calculator.CommandLine.Options

namespace Calculator.CommandLine

inductive Command where
  | eval
  | tokens
  | check
  | repl
deriving DecidableEq, Repr

namespace Command

def all : List Command := [eval, tokens, check, repl]

def name : Command → String
  | eval => "eval"
  | tokens => "tokens"
  | check => "check"
  | repl => "repl"

def ofName? (name : String) : Option Command := all.find? (·.name == name)

end Command

def textSwitch : Switch := ⟨["--text", "-t"], true⟩

def stepsSwitch : Switch := ⟨["--steps", "-s"], false⟩

def levelSwitch : Switch := ⟨["--log-level"], true⟩

def Command.switches : Command → List Switch
  | .eval => [Switch.help, textSwitch, stepsSwitch]
  | .tokens | .check => [Switch.help, textSwitch]
  | .repl => [Switch.help]

def programSwitches : List Switch := [Switch.help, levelSwitch]

inductive Topic where
  | program
  | command (command : Command)
deriving DecidableEq, Repr

namespace Topic

def name : Topic → String
  | program => "exprcalc"
  | command c => s!"exprcalc {c.name}"

def usage (topic : Topic) : String :=
  let options :=
    match topic with
    | program => "[-h] [--log-level LOG_LEVEL] \x7beval,tokens,check,repl\x7d ..."
    | command .eval => "[-h] [--text TEXT] [--steps]"
    | command .tokens | command .check => "[-h] [--text TEXT]"
    | command .repl => "[-h]"
  s!"usage: {topic.name} {options}\n"

def helpLines : Topic → List String
  | program =>
    ["ExprCalc — arithmetic expression evaluator",
      "",
      "positional arguments:",
      "  \x7beval,tokens,check,repl\x7d",
      "    eval                Evaluate an expression",
      "    tokens              Show tokens after unary-chain reduction",
      "    check               List every syntax rule the expression breaks",
      "    repl                Evaluate expressions line by line",
      "",
      "options:",
      "  -h, --help            show this help message and exit",
      "  --log-level LOG_LEVEL",
      "                        Overrides EXPR_CALC_LOG_LEVEL (e.g. DEBUG)"]
  | command .eval =>
    ["options:",
      "  -h, --help            show this help message and exit",
      "  --text TEXT, -t TEXT  Expression (or stdin)",
      "  --steps, -s           Show computation steps"]
  | command .tokens | command .check =>
    ["options:",
      "  -h, --help            show this help message and exit",
      "  --text TEXT, -t TEXT  Expression (or stdin)"]
  | command .repl =>
    ["options:",
      "  -h, --help  show this help message and exit"]

def help (topic : Topic) : String :=
  topic.usage ++ "\n" ++ String.join (topic.helpLines.map (· ++ "\n"))

end Topic

structure Invocation where
  level : Setting
  command : Command
  text : Setting
  steps : Bool
deriving DecidableEq, Repr

/-- A run that ends before any command does: with the help on a topic, or with a fault. -/
structure Refusal where
  topic : Topic
  stop : Stop
deriving DecidableEq, Repr

/-- The run that arguments ask for. Arguments that a command does not take are reported by the
program, after those that it does not take itself. -/
def Invocation.ofArguments (keepsHyphens : Bool) (arguments : List String) :
    Except Refusal Invocation := do
  let outer ← (readOptions programSwitches true arguments).mapError (Refusal.mk .program)
  match outer.command with
  | [] => .error ⟨.program, .fault .commandMissing⟩
  | name :: rest =>
    match Command.ofName? name with
    | none => .error ⟨.program, .fault (.commandUnknown name (Command.all.map Command.name))⟩
    | some command =>
      let inner ← (readOptions command.switches false rest).mapError (Refusal.mk (.command command))
      match outer.extra ++ inner.extra with
      | [] =>
        .ok ⟨outer.setting keepsHyphens levelSwitch, command,
          inner.setting keepsHyphens textSwitch, inner.has stepsSwitch⟩
      | extra => .error ⟨.program, .fault (.unrecognized extra)⟩

end Calculator.CommandLine
