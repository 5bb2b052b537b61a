import Calculator.Text.Quoted
import Calculator.Text.Scripts

/-!
Arguments of a program as options and operands. An option is named in full, or by the beginning of
a long name that no other name has; its value follows it or is attached to it; short names without
a value may stand together, also behind an equals sign. Every argument is told apart before any is
used.
-/

namespace Calculator.CommandLine

structure Switch where
  names : List String
  takesValue : Bool
deriving DecidableEq, Repr

def Switch.help : Switch := ⟨["-h", "--help"], false⟩

def Switch.shown (s : Switch) : String := "/".intercalate s.names

inductive Argument where
  | operand
  /-- Two hyphens: only operands come after them. -/
  | separator
  | unknown
  /-- An option, and the text that is attached to its name in the same argument. -/
  | switch (switch : Switch) (name : String) (attached : Option (List Char))
deriving DecidableEq, Repr

inductive UsageFault where
  | ambiguous (argument : String) (names : List String)
  | valueMissing (switch : Switch)
  | valueIgnored (switch : Switch) (value : String)
  | commandMissing
  | commandUnknown (text : String) (commands : List String)
  | unrecognized (arguments : List String)
deriving DecidableEq, Repr

def UsageFault.message : UsageFault → String
  | ambiguous argument names =>
    s!"ambiguous option: {argument} could match " ++ ", ".intercalate names
  | valueMissing s => s!"argument {s.shown}: expected one argument"
  | valueIgnored s value =>
    s!"argument {s.shown}: ignored explicit argument {Text.quoted value}"
  | commandMissing => "the following arguments are required: command"
  | commandUnknown text commands =>
    s!"argument command: invalid choice: {Text.quoted text} (choose from " ++
      ", ".intercalate (commands.map Text.quoted) ++ ")"
  | unrecognized arguments => "unrecognized arguments: " ++ " ".intercalate arguments

def namesOf (switches : List Switch) : List (String × Switch) :=
  switches.flatMap fun s => s.names.map fun name => (name, s)

def named? (switches : List Switch) (name : List Char) : Option Switch :=
  (namesOf switches).lookup (String.ofList name)

/-- Digits after a hyphen, with a point before the last of them at most: the text of a negative
number, which is no option. A line feed may end it. -/
def isNegativeNumber (text : List Char) : Bool :=
  let isDigit (c : Char) := (Text.digitOf? c).isSome
  let body := if text.getLast? = some '\n' then text.dropLast else text
  match body with
  | '-' :: rest =>
    match rest.dropWhile isDigit with
    | [] => !rest.isEmpty
    | '.' :: places => !places.isEmpty && places.all isDigit
    | _ => false
  | _ => false

/-- The part before the first equals sign, and the part after it if there is one. -/
def splitValue (text : List Char) : List Char × Option (List Char) :=
  match text.dropWhile (· != '=') with
  | [] => (text, none)
  | _ :: value => (text.takeWhile (· != '='), some value)

/-- The options that a text which is no full name may mean. -/
def candidates (switches : List Switch) (text : List Char) :
    List (String × Switch × Option (List Char)) :=
  match text with
  | '-' :: '-' :: _ =>
    let (start, attached) := splitValue text
    (namesOf switches).filterMap fun (name, s) =>
      if start.isPrefixOf name.toList then some (name, s, attached) else none
  | '-' :: c :: value =>
    (namesOf switches).filterMap fun (name, s) =>
      if name.toList = ['-', c] then some (name, s, some value) else none
  | _ => []

/-- Judges one argument. A text that begins with a hyphen is an operand only if it is a hyphen, the
text of a negative number or holds a space. -/
def readArgument (switches : List Switch) (argument : String) : Except UsageFault Argument :=
  let text := argument.toList
  if text.head? ≠ some '-' then .ok .operand
  else
    match named? switches text with
    | some s => .ok (.switch s argument none)
    | none =>
      if text = ['-'] then .ok .operand
      else
        let (start, attached) := splitValue text
        match attached.bind fun _ => named? switches start with
        | some s => .ok (.switch s (String.ofList start) attached)
        | none =>
          match candidates switches text with
          | [(name, s, attached)] => .ok (.switch s name attached)
          | [] =>
            .ok (if isNegativeNumber text || text.contains ' ' then .operand else .unknown)
          | several => .error (.ambiguous argument (several.map (·.1)))

/-- Judges all arguments; all that come after a separator are operands. -/
def readArguments (switches : List Switch) :
    List String → Except UsageFault (List (String × Argument))
  | [] => .ok []
  | "--" :: rest => .ok (("--", .separator) :: rest.map fun text => (text, .operand))
  | text :: rest => do
    let argument ← readArgument switches text
    let arguments ← readArguments switches rest
    return (text, argument) :: arguments

/-- The options that one argument gives, with the values that they have; the last one may still want
the next argument for its value. -/
structure Cluster where
  given : List (Switch × Option String)
  wantsValue : Option Switch := none

def Cluster.single (s : Switch) : Cluster :=
  if s.takesValue then { given := [], wantsValue := some s } else { given := [(s, none)] }

def Cluster.after (s : Switch) (c : Cluster) : Cluster := { c with given := (s, none) :: c.given }

/-- Takes apart the text that is attached to an option's name. An option with a value takes all of
it; a short name without one hands it on to the short name that it begins with. -/
def cluster (switches : List Switch) (s : Switch) (isShort : Bool) :
    List Char → Except UsageFault Cluster
  | [] =>
    if s.takesValue then .ok { given := [(s, some "")] }
    else .error (.valueIgnored s "")
  | c :: rest =>
    if s.takesValue then .ok { given := [(s, some (String.ofList (c :: rest)))] }
    else
      match if isShort then named? switches ['-', c] else none with
      | none => .error (.valueIgnored s (String.ofList (c :: rest)))
      | some next =>
        match rest with
        | [] => .ok (Cluster.after s (Cluster.single next))
        | d :: more => (cluster switches next true (d :: more)).map (Cluster.after s)

def Cluster.ofSwitch (switches : List Switch) (s : Switch) (name : String) :
    Option (List Char) → Except UsageFault Cluster
  | none => .ok (Cluster.single s)
  | some attached => cluster switches s (name.toList[1]? != some '-') attached

inductive Stop where
  | help
  | fault (fault : UsageFault)
deriving DecidableEq, Repr

/-- Arguments that have been used: options with their values in order, operands and unknown
arguments that nothing takes, and for a program with commands the arguments from the command on. -/
structure Used where
  given : List (Switch × Option String) := []
  extra : List String := []
  command : List String := []

def asksHelp (given : List (Switch × Option String)) : Bool :=
  given.any fun (s, _) => s == Switch.help

/-- Uses arguments from left to right. Where commands are taken, the first operand is one, with all
arguments after it. -/
def useArguments (switches : List Switch) (takesCommand : Bool) (used : Used) :
    List (String × Argument) → Except Stop Used
  | [] => .ok used
  | (text, .operand) :: rest =>
    if takesCommand then .ok { used with command := text :: rest.map (·.1) }
    else useArguments switches takesCommand { used with extra := used.extra ++ [text] } rest
  | (text, .separator) :: rest =>
    if takesCommand && !rest.isEmpty then .ok { used with command := text :: rest.map (·.1) }
    else useArguments switches takesCommand { used with extra := used.extra ++ [text] } rest
  | (text, .unknown) :: rest =>
    useArguments switches takesCommand { used with extra := used.extra ++ [text] } rest
  | (_, .switch s name attached) :: rest =>
    match Cluster.ofSwitch switches s name attached with
    | .error fault => .error (.fault fault)
    | .ok c =>
      let used := { used with given := used.given ++ c.given }
      match c.wantsValue with
      | none =>
        if asksHelp c.given then .error .help else useArguments switches takesCommand used rest
      | some wanting =>
        match rest with
        | (value, .operand) :: rest =>
          if asksHelp c.given then .error .help
          else
            useArguments switches takesCommand
              { used with given := used.given ++ [(wanting, some value)] } rest
        | _ => .error (.fault (.valueMissing wanting))

/-- What an option is set to: it may be left out, or given without a value. -/
inductive Setting where
  | unset
  | blank
  | value (text : String)
deriving DecidableEq, Repr

/-- What an option is set to by the last of its values. Where hyphens are not kept, two hyphens
stand for no value. -/
def Used.setting (keepsHyphens : Bool) (used : Used) (s : Switch) : Setting :=
  match (used.given.filter (·.1 == s)).getLast? with
  | none => .unset
  | some (_, none) => .blank
  | some (_, some text) => if text = "--" ∧ !keepsHyphens then .blank else .value text

def Used.has (used : Used) (s : Switch) : Bool := used.given.any fun (t, _) => t == s

def readOptions (switches : List Switch) (takesCommand : Bool) (arguments : List String) :
    Except Stop Used := do
  let judged ← (readArguments switches arguments).mapError .fault
  useArguments switches takesCommand {} judged

end Calculator.CommandLine
