namespace Calculator.Text

/-- White space of every kind: the controls from tab to carriage return, the four information
separators, the next-line control, and the spaces and separators of Unicode. -/
def isBlank (c : Char) : Bool :=
  let n := c.toNat
  (0x09 ≤ n && n ≤ 0x0D) || (0x1C ≤ n && n ≤ 0x20) || n == 0x85 || n == 0xA0 || n == 0x1680 ||
    (0x2000 ≤ n && n ≤ 0x200A) || n == 0x2028 || n == 0x2029 || n == 0x202F || n == 0x205F ||
    n == 0x3000

theorem isBlank_space : isBlank ' ' = true := by decide

def dropBlanks (text : List Char) : List Char :=
  text.dropWhile isBlank

def trim (text : List Char) : List Char :=
  (dropBlanks (dropBlanks text).reverse).reverse

/-- Each run of blanks as one space: the last blank of the run becomes the space. -/
def collapse : List Char → List Char
  | [] => []
  | c :: rest =>
    if isBlank c then
      if (rest.head?).any isBlank then collapse rest else ' ' :: collapse rest
    else c :: collapse rest

def isBlankText (text : List Char) : Bool :=
  text.all isBlank

end Calculator.Text

namespace Calculator

/-- The en dash, the em dash and the minus sign are a hyphen, and a comma is a point. -/
def standardChar (c : Char) : Char :=
  if c = '\u2013' ∨ c = '\u2014' ∨ c = '\u2212' then '-'
  else if c = ',' then '.'
  else c

def normalChars (text : List Char) : List Char :=
  (Text.collapse (Text.trim text)).map standardChar

def normalize (text : String) : String := String.ofList (normalChars text.toList)

end Calculator
