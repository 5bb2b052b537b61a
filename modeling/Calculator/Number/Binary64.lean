/-!
Doubles as exact numbers. A finite double is a sign, a mantissa and a power of two; reading goes the
other way, from a quotient of two natural numbers to the nearest double.
-/

namespace Calculator.Number

/-- What a double stands for: no number, an infinity, or `mantissa * 2 ^ exponent` with a sign,
which zero has too. -/
inductive Content where
  | nan
  | infinite (negative : Bool)
  | finite (negative : Bool) (mantissa : Nat) (exponent : Int)
deriving DecidableEq, Repr

/-- The least exponent of a double; numbers below the normal range use it as well. -/
def leastExponent : Int := -1074

def binadeSize : Nat := Nat.pow 2 52

/-- The place of infinity among the magnitudes, which are numbered upwards from zero. -/
def infinityPlace : Nat := 2047 * binadeSize

def signBit : Nat := Nat.pow 2 63

/-- The number of a magnitude: doubles of one sign, counted upwards from zero, have consecutive
numbers, and infinity comes after the last finite one. -/
def magnitude (value : Float) : Nat :=
  value.toBits.toNat % signBit

def isNegative (value : Float) : Bool :=
  signBit ≤ value.toBits.toNat

def content (value : Float) : Content :=
  let place := magnitude value
  let mantissa := place % binadeSize
  let binade : Nat := place / binadeSize
  if binade = 2047 then
    if mantissa = 0 then .infinite (isNegative value) else .nan
  else if binade = 0 then .finite (isNegative value) mantissa leastExponent
  else .finite (isNegative value) (binadeSize + mantissa) (leastExponent - 1 + binade)

/-- The quotient as a natural number, to the nearest; a half goes to the even neighbour. -/
def roundQuotient (numerator denominator : Nat) : Nat :=
  let whole := numerator / denominator
  let rest := 2 * (numerator % denominator)
  if rest < denominator then whole
  else if denominator < rest then whole + 1
  else whole + whole % 2

/-- The exponent `e` with `2 ^ e ≤ numerator / denominator < 2 ^ (e + 1)`, for positive numbers. -/
def binaryExponent (numerator denominator : Nat) : Int :=
  let guess := (numerator.log2 : Int) - denominator.log2
  if denominator <<< guess.toNat ≤ numerator <<< (-guess).toNat then guess else guess - 1

/-- The number of the magnitude that is nearest to a quotient, a half going to the even one. The
mantissa is rounded at the exponent of the quotient's binade; one that is rounded up to the next
power of two carries into the next binade. -/
def nearestMagnitude (numerator denominator : Nat) : Nat :=
  if numerator = 0 then 0
  else
    let exponent := max leastExponent (binaryExponent numerator denominator - 52)
    let mantissa :=
      roundQuotient (numerator <<< (-exponent).toNat) (denominator <<< exponent.toNat)
    min infinityPlace ((exponent - leastExponent).toNat * binadeSize + mantissa)

def nearest (numerator denominator : Nat) : Float :=
  Float.ofBits (UInt64.ofNat (nearestMagnitude numerator denominator))

structure Decimal where
  digits : Nat
  exponent : Int
deriving DecidableEq, Repr

namespace Decimal

def numerator (d : Decimal) : Nat := d.digits * Nat.pow 10 d.exponent.toNat

def denominator (d : Decimal) : Nat := Nat.pow 10 (-d.exponent).toNat

def place (d : Decimal) : Nat :=
  nearestMagnitude d.numerator d.denominator

def toFloat (d : Decimal) : Float :=
  nearest d.numerator d.denominator

end Decimal

def zero : Float := Float.ofBits 0

def one : Float := Float.ofBits (UInt64.ofNat (1023 * binadeSize))

def infinity : Float := Float.ofBits (UInt64.ofNat infinityPlace)

def nan : Float := Float.ofBits (UInt64.ofNat infinityPlace + 1)

def withSignOf (sign size : Float) : Float := if isNegative sign then -size else size

/-- At a zero divisor the quotient is an infinity with the sign of both, or no number if the
dividend is zero or no number itself. -/
def quotient (a b : Float) : Float :=
  if b == zero then
    if a == zero || a.isNaN then nan
    else withSignOf a infinity * withSignOf b one
  else a / b

end Calculator.Number
