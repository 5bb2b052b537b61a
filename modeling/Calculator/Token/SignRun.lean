import Calculator.Token
import Calculator.Text.Quoted

namespace Calculator

namespace Sign

def ofRun (run : List Sign) : Sign :=
  run.foldr combine .plus

def run? : List Char → Option (List Sign)
  | [] => none
  | text => text.mapM fun c => ofText? (String.singleton c)

structure NotARun where
  text : String
deriving DecidableEq

def NotARun.message (fault : NotARun) : String :=
  s!"Unary chain may only contain '+' or '-': {Text.quoted fault.text}"

def ofRunText (text : String) : Except NotARun Sign :=
  match run? text.toList with
  | some run => .ok (ofRun run)
  | none => .error ⟨text⟩

end Sign

namespace Token

def isSignRun (text : String) : Bool := (Sign.run? text.toList).isSome

def isSignText (text : String) : Bool := text == "+" || text == "-"

/-- Every run of signs as one sign; all other tokens stay. -/
def mergeSigns : List Token → List Token
  | [] => []
  | .sign s :: rest =>
    match mergeSigns rest with
    | .sign t :: more => .sign (s.combine t) :: more
    | more => .sign s :: more
  | t :: rest => t :: mergeSigns rest

def readPending (pending : List String) : Except Sign.NotARun (List String) :=
  if pending = [] then .ok []
  else (Sign.ofRunText (String.join pending)).map fun s => [s.text]

/-- Keeps the signs of a run pending until another text or the end is reached. -/
def readRuns (pending : List String) : List String → Except Sign.NotARun (List String)
  | [] => readPending pending
  | t :: rest =>
    if isSignText t then readRuns (pending ++ [t]) rest
    else do
      let run ← readPending pending
      let more ← readRuns [] rest
      return run ++ t :: more

end Token

end Calculator
