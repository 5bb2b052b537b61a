import Calculator.Number.Binary64

namespace Calculator

abbrev Digit := Fin 10

namespace Digit

def toChar (d : Digit) : Char := Char.ofNat ('0'.toNat + d)

/-- The digit that a character writes; meant for the ten ASCII digits only. -/
def ofChar (c : Char) : Digit := Fin.ofNat 10 (c.toNat - '0'.toNat)

theorem ofChar_toChar (d : Digit) : ofChar d.toChar = d := by
  revert d
  decide

theorem isDigit_toChar (d : Digit) : d.toChar.isDigit = true := by
  revert d
  decide

def value (digits : List Digit) : Nat :=
  digits.foldl (fun n d => 10 * n + d.val) 0

end Digit

/-- The digits before the point, of which there is a first one, and those after it; without a point
there are none after it. -/
structure Numeral where
  first : Digit
  rest : List Digit
  fraction : List Digit
deriving DecidableEq, Repr

namespace Numeral

def whole (n : Numeral) : List Digit := n.first :: n.rest

/-- Puts a zero before the point if no digit comes before it. -/
def ofDigits (whole fraction : List Digit) : Numeral :=
  match whole with
  | [] => ⟨0, [], fraction⟩
  | d :: rest => ⟨d, rest, fraction⟩

def chars (n : Numeral) : List Char :=
  n.whole.map Digit.toChar ++
    if n.fraction = [] then [] else '.' :: n.fraction.map Digit.toChar

def text (n : Numeral) : String := String.ofList n.chars

/-- All digits as one integer, moved right by as many places as the fraction has. -/
def decimal (n : Numeral) : Number.Decimal :=
  ⟨Digit.value (n.whole ++ n.fraction), -(n.fraction.length : Int)⟩

def value (n : Numeral) : Float := n.decimal.toFloat

/-- Reads a whole text as a numeral; a point needs a digit on either side. -/
def ofChars? (text : List Char) : Option Numeral :=
  let whole := text.takeWhile Char.isDigit
  if whole = [] then none
  else
    match text.dropWhile Char.isDigit with
    | [] => some (ofDigits (whole.map Digit.ofChar) [])
    | '.' :: c :: rest =>
      if (c :: rest).all Char.isDigit then
        some (ofDigits (whole.map Digit.ofChar) ((c :: rest).map Digit.ofChar))
      else none
    | _ => none

end Numeral

end Calculator
