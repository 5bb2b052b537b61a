import Calculator.CommandLine.Run

open Calculator.CommandLine

def main (arguments : List String) : IO UInt32 := do
  let input ← if readsInput arguments .usual then (← IO.getStdin).readToEnd else pure ""
  let outcome := run arguments input .usual
  (← IO.getStdout).putStr outcome.output
  (← IO.getStderr).putStr outcome.errors
  match outcome.failure with
  | some failure => (← IO.getStderr).putStrLn failure.message
  | none => pure ()
  return UInt32.ofNat outcome.exit
