import Calculator.Number.Shortest

namespace Calculator.Number

structure Words where
  nan : String
  infinity : String
  negativeInfinity : String

/-- Where positional writing begins and ends, and how an exponent is written. -/
structure Layout where
  leastPositional : Int
  greatestPositional : Int
  exponentDigits : Nat

/-- Numbers from one ten-thousandth up to below `10 ^ 16` are written without an exponent; an
exponent has a sign and two digits at least. -/
def standard : Layout := ⟨-4, 15, 2⟩

def plainWords : Words := ⟨"nan", "inf", "-inf"⟩

def displayWords : Words := ⟨"NaN", "Infinity", "-Infinity"⟩

def digitText (n : Nat) : List Char := Nat.toDigits 10 n

/-- Digits with a point after the first `count` of them, filled up with zeros; at least one digit
stands on either side. -/
def withPoint (digits : List Char) (count : Int) : List Char :=
  let zeros := List.replicate (-count).toNat '0'
  let whole := digits.take count.toNat
  let filled := whole ++ List.replicate (count.toNat - whole.length) '0'
  let fraction := zeros ++ digits.drop count.toNat
  (if filled = [] then ['0'] else filled) ++ '.' :: (if fraction = [] then ['0'] else fraction)

def withExponent (layout : Layout) (digits : List Char) (exponent : Int) : List Char :=
  let significand :=
    match digits with
    | [] => []
    | [d] => [d]
    | d :: rest => d :: '.' :: rest
  let size := digitText exponent.natAbs
  significand ++ 'e' :: (if exponent < 0 then '-' else '+') ::
    (List.replicate (layout.exponentDigits - size.length) '0' ++ size)

/-- The exponent of the first digit decides between the two ways of writing. -/
def Layout.write (layout : Layout) (d : Decimal) : List Char :=
  let digits := digitText d.digits
  let exponent : Int := d.exponent + digits.length - 1
  if layout.leastPositional ≤ exponent ∧ exponent ≤ layout.greatestPositional then
    withPoint digits (exponent + 1)
  else withExponent layout digits exponent

def signText (negative : Bool) : String := if negative then "-" else ""

def format (words : Words) (value : Float) : String :=
  match content value with
  | .nan => words.nan
  | .infinite false => words.infinity
  | .infinite true => words.negativeInfinity
  | .finite negative mantissa exponent =>
    signText negative ++
      String.ofList (standard.write (shortest (magnitude value) mantissa exponent))

def plain (value : Float) : String := format plainWords value

def display (value : Float) : String := format displayWords value

def natural? (mantissa : Nat) (exponent : Int) : Option Nat :=
  let divisor := 1 <<< (-exponent).toNat
  if mantissa % divisor = 0 then some ((mantissa <<< exponent.toNat) / divisor) else none

/-- A value in an account of a calculation: all digits of a whole number and no point, both zeros
as `0`; any other value as it is calculated with. -/
def brief (value : Float) : String :=
  match content value with
  | .finite negative mantissa exponent =>
    match natural? mantissa exponent with
    | some n => signText (negative && n != 0) ++ String.ofList (digitText n)
    | none => plain value
  | _ => plain value

end Calculator.Number
