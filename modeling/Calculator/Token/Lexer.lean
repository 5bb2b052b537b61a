import Calculator.Issue

namespace Calculator.Token

def symbol? : Char → Option Token
  | '+' => some (.sign .plus)
  | '-' => some (.sign .minus)
  | '*' => some (.scale .times)
  | '/' => some (.scale .dividedBy)
  | '(' => some .opening
  | ')' => some .closing
  | _ => none

def isNumeralChar (c : Char) : Bool := c.isDigit || c == '.'

def isLegal (c : Char) : Bool := isNumeralChar c || c == ' ' || (symbol? c).isSome

def foreignCharacter? (position : Nat) : List Char → Option LexicalFault
  | [] => none
  | c :: rest =>
    if isLegal c then foreignCharacter? (position + 1) rest
    else some (.foreignCharacter c position)

/-- The numeral that a run of digits and points writes. A zero stands in for the digits that are
missing on one side of the point. -/
def ofRun (position : Nat) (run : List Char) : Except LexicalFault Token :=
  let whole := run.takeWhile Char.isDigit
  match run.dropWhile Char.isDigit with
  | [] => .ok (.number (.ofDigits (whole.map Digit.ofChar) []))
  | _ :: rest =>
    let fraction := rest.takeWhile Char.isDigit
    if rest.dropWhile Char.isDigit ≠ [] then
      .error (.secondPoint (String.ofList (whole ++ '.' :: fraction ++ ['.']))
        (position + whole.length + 1 + fraction.length))
    else if whole = [] ∧ fraction = [] then .error (.lonePoint position)
    else
      let places := if fraction = [] then ['0'] else fraction
      .ok (.number (.ofDigits (whole.map Digit.ofChar) (places.map Digit.ofChar)))

theorem length_dropWhile_le (p : Char → Bool) (cs : List Char) :
    (cs.dropWhile p).length ≤ cs.length :=
  (List.dropWhile_suffix p).length_le

/-- The tokens of characters that are all legal, from the given position on. -/
def scan (position : Nat) : List Char → Except LexicalFault (List Token)
  | [] => .ok []
  | c :: rest =>
    if isNumeralChar c then do
      let run := rest.takeWhile isNumeralChar
      let token ← ofRun position (c :: run)
      let tokens ← scan (position + 1 + run.length) (rest.dropWhile isNumeralChar)
      return token :: tokens
    else do
      let tokens ← scan (position + 1) rest
      return (symbol? c).toList ++ tokens
termination_by text => text.length
decreasing_by
  · have := length_dropWhile_le isNumeralChar rest
    simp only [List.length_cons]
    omega
  · simp

/-- The tokens of a text, or its first fault; a foreign character anywhere comes first. -/
def ofChars (text : List Char) : Except LexicalFault (List Token) :=
  match foreignCharacter? 0 text with
  | some fault => .error fault
  | none => scan 0 text

end Calculator.Token
