import Calculator.Number.Binary64

/-!
The shortest decimal that reads back. Among all decimals that round to a double it takes one with
the fewest digits, of several the nearest to the double, and of two equally near the even one.
Only two decimals of each length can be meant: the neighbours of the double on the grid of that
length.
-/

namespace Calculator.Number

def digitCount (n : Nat) : Nat :=
  if n = 0 then 0 else digitCount (n / 10) + 1
termination_by n
decreasing_by omega

/-- The exponent `e` with `10 ^ e ≤ numerator / denominator < 10 ^ (e + 1)`, for positive numbers.
-/
def decimalExponent (numerator denominator : Nat) : Int :=
  if denominator ≤ numerator then (digitCount (numerator / denominator) : Int) - 1
  else -(digitCount ((denominator - 1) / numerator) : Int)

/-- The point of a decimal grid at or below a quotient, and whether the quotient lies below, at or
above the middle between that point and the next. -/
def gridPoint (numerator denominator : Nat) (exponent : Int) : Decimal × Ordering :=
  let scaled := numerator * Nat.pow 10 (-exponent).toNat
  let step := denominator * Nat.pow 10 exponent.toNat
  (⟨scaled / step, exponent⟩, compare (2 * (scaled % step)) step)

/-- The decimal on a grid that reads back as the magnitude numbered `place`, if there is one: the
nearer of the quotient's two neighbours, unless only the other one reads back. -/
def onGrid? (place numerator denominator : Nat) (exponent : Int) : Option Decimal :=
  let (below, side) := gridPoint numerator denominator exponent
  let above : Decimal := { below with digits := below.digits + 1 }
  let belowFirst := side == .lt || (side == .eq && below.digits % 2 == 0)
  (if belowFirst then [below, above] else [above, below]).find? fun d => d.place == place

/-- Tries the grids of `count` digits, then finer ones, `fuel` grids in all. -/
def onFirstGrid? (place numerator denominator : Nat) (first : Int) : Nat → Nat → Option Decimal
  | 0, _ => none
  | fuel + 1, count =>
    (onGrid? place numerator denominator (first - count + 1)).orElse fun _ =>
      onFirstGrid? place numerator denominator first fuel (count + 1)

def greatestDigitCount : Nat := 17

def exactDecimal (mantissa : Nat) (exponent : Int) : Decimal :=
  ⟨(mantissa <<< exponent.toNat) * Nat.pow 5 (-exponent).toNat, -((-exponent).toNat : Int)⟩

def dropTrailingZeros (n : Nat) : Nat × Nat :=
  if n = 0 then (0, 0)
  else if n % 10 = 0 then
    let (rest, zeros) := dropTrailingZeros (n / 10)
    (rest, zeros + 1)
  else (n, 0)
termination_by n
decreasing_by omega

def Decimal.trimmed (d : Decimal) : Decimal :=
  let (digits, zeros) := dropTrailingZeros d.digits
  ⟨digits, d.exponent + zeros⟩

/-- The shortest decimal that reads back as `mantissa * 2 ^ exponent`, where `place` numbers that
magnitude. No digits stand for zero. -/
def shortest (place mantissa : Nat) (exponent : Int) : Decimal :=
  if mantissa = 0 then ⟨0, 0⟩
  else
    let numerator := mantissa <<< exponent.toNat
    let denominator := 1 <<< (-exponent).toNat
    let first := decimalExponent numerator denominator
    ((onFirstGrid? place numerator denominator first greatestDigitCount 1).getD
      (exactDecimal mantissa exponent)).trimmed

end Calculator.Number
