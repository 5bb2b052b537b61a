import Calculator.Number.Binary64
import Calculator.Text.Blank
import Calculator.Text.Scripts

namespace Calculator.Number

/-- Takes out the underscores, if each of them stands between two digits. -/
def dropUnderscores? (previous : Char) : List Char → Option (List Char)
  | [] => some []
  | '_' :: rest =>
    if previous.isDigit && (rest.head?).any Char.isDigit then dropUnderscores? '_' rest else none
  | c :: rest => (dropUnderscores? c rest).map (c :: ·)

def takeSign : List Char → Bool × List Char
  | '-' :: rest => (true, rest)
  | '+' :: rest => (false, rest)
  | text => (false, text)

def digitsValue (digits : List Char) : Nat :=
  digits.foldl (fun n c => 10 * n + (c.toNat - '0'.toNat)) 0

def exponent? : List Char → Option Int
  | [] => some 0
  | mark :: rest =>
    let (negative, digits) := takeSign rest
    if (mark = 'e' ∨ mark = 'E') ∧ digits ≠ [] ∧ digits.all Char.isDigit then
      let size : Int := digitsValue digits
      some (if negative then -size else size)
    else none

/-- Powers of ten beyond this size lead out of the range of doubles whatever digits stand there. -/
def farExponent : Int := 400

/-- The double nearest to the number that `count` digits and an exponent write. Numbers far out of
range are not computed. -/
def nearestInRange (digits count : Nat) (exponent : Int) : Float :=
  if digits = 0 ∨ exponent + count < -farExponent then nearest 0 1
  else if farExponent < exponent then infinity
  else (Decimal.mk digits exponent).toFloat

/-- A number without a sign: digits on at least one side of the point, then the exponent. -/
def magnitude? (text : List Char) : Option Float :=
  let whole := text.takeWhile Char.isDigit
  let rest := text.dropWhile Char.isDigit
  let afterPoint :=
    match rest with
    | '.' :: more => more
    | _ => []
  let fraction := afterPoint.takeWhile Char.isDigit
  let tail := if rest.head? = some '.' then afterPoint.dropWhile Char.isDigit else rest
  if whole = [] ∧ fraction = [] then none
  else
    (exponent? tail).map fun exponent =>
      let digits := whole ++ fraction
      nearestInRange (digitsValue digits) digits.length (exponent - fraction.length)

def word? (text : List Char) : Option Float :=
  match String.ofList (text.map Char.toLower) with
  | "inf" | "infinity" => some infinity
  | "nan" => some nan
  | _ => none

def read? (text : String) : Option Float := do
  let chars := (Text.trim text.toList).map Text.asciiDigit
  let plain ← dropUnderscores? ' ' chars
  let (negative, unsigned) := takeSign plain
  let value ← (word? unsigned).orElse fun _ => magnitude? unsigned
  return if negative then -value else value

end Calculator.Number
