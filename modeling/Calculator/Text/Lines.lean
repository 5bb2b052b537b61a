import Calculator.Text.Blank

namespace Calculator.Text

/-- A carriage return, alone or before a line feed, is a line feed. -/
def readNewlines : List Char → List Char
  | '\r' :: '\n' :: rest => '\n' :: readNewlines rest
  | '\r' :: rest => '\n' :: readNewlines rest
  | c :: rest => c :: readNewlines rest
  | [] => []

/-- The lines of a text, each with the line feed that ends it; the last line may lack one. -/
def lines : List Char → List (List Char)
  | [] => []
  | c :: rest =>
    if c = '\n' then [c] :: lines rest
    else
      match lines rest with
      | [] => [[c]]
      | line :: more => (c :: line) :: more

/-- The first word of a text together with the blanks behind it, and what is left of the text. -/
def takeWord (text : List Char) : List Char × List Char :=
  let solid := text.takeWhile (! isBlank ·)
  let rest := text.dropWhile (! isBlank ·)
  (solid ++ rest.takeWhile isBlank, rest.dropWhile isBlank)

/-- The words of a text that begins with one, each with the blanks behind it; `fuel` bounds their
number. -/
def wordsWithBlanks : Nat → List Char → List (List Char)
  | 0, _ => []
  | _, [] => []
  | fuel + 1, text =>
    let (word, rest) := takeWord text
    word :: wordsWithBlanks fuel rest

def solidLength (word : List Char) : Nat := (word.takeWhile (! isBlank ·)).length

def chop (width : Nat) (text : List Char) : List (List Char) :=
  if width = 0 ∨ text.length ≤ width then [text]
  else text.take width :: chop width (text.drop width)
termination_by text.length
decreasing_by
  simp only [List.length_drop]
  omega

/-- Puts words on lines, the first of them behind what stands on the line already. -/
def fill (width : Nat) (line : List Char) : List (List Char) → List (List Char)
  | [] => [line]
  | word :: words =>
    if line.length + solidLength word ≤ width then fill width (line ++ word) words
    else if width < solidLength word then
      let pieces := chop width word
      (if line = [] then [] else [line]) ++ pieces.dropLast ++
        fill width (pieces.getLast?.getD []) words
    else line :: fill width word words

def cropBlanks (width : Nat) (line : List Char) : List Char :=
  let blanks := (line.reverse.takeWhile isBlank).length
  line.take (line.length - min blanks (line.length - width))

def wrap (width : Nat) (text : String) : List String :=
  let words := wordsWithBlanks text.length text.toList
  (fill width [] words).map fun line => String.ofList (cropBlanks width line)

end Calculator.Text
