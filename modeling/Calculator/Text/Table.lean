import Calculator.Text.Cells

namespace Calculator.Text

inductive Alignment where
  | left
  | right
deriving DecidableEq, Repr

structure Column where
  heading : String
  alignment : Alignment := .left

structure Table where
  title : String
  columns : List Column
  rows : List (List String)

/-- Controls that a table leaves out of its cells: the bell, the backspace, the vertical tab, the
form feed and the carriage return. -/
def isDropped (c : Char) : Bool :=
  c.toNat == 7 || c.toNat == 8 || (11 ≤ c.toNat && c.toNat ≤ 13)

def cellText (text : String) : String := String.ofList (text.toList.filter (! isDropped ·))

def repeated (count : Nat) (c : Char) : String := String.ofList (List.replicate count c)

def pad (alignment : Alignment) (width : Nat) (text : String) : String :=
  let space := repeated (width - cells text) ' '
  match alignment with
  | .left => text ++ space
  | .right => space ++ text

def centered (width : Nat) (text : String) : String :=
  let excess := width - cells text
  repeated (excess / 2) ' ' ++ text ++ repeated (excess - excess / 2) ' '

namespace Table

def shownRows (table : Table) : List (List String) := table.rows.map (List.map cellText)

def widths (table : Table) : List (Alignment × Nat) :=
  table.columns.zipIdx.map fun (column, i) =>
    let texts := column.heading :: table.shownRows.filterMap (·[i]?)
    (column.alignment, (texts.map cells).foldl max 0)

def rowLine (widths : List (Alignment × Nat)) (row : List String) : String :=
  let cells := widths.zipWith (fun (alignment, width) text => pad alignment width text) row
  "| " ++ " | ".intercalate cells ++ " |"

def dividerLine (widths : List (Alignment × Nat)) : String :=
  "|" ++ "+".intercalate (widths.map fun (_, width) => repeated (width + 2) '-') ++ "|"

def width (widths : List (Alignment × Nat)) : Nat :=
  widths.foldl (fun count (_, width) => count + width + 3) 1

def lines (table : Table) : List String :=
  let widths := table.widths
  let width := width widths
  let border := "+" ++ repeated (width - 2) '-' ++ "+"
  [centered width table.title, border, rowLine widths (table.columns.map Column.heading),
    dividerLine widths] ++ table.shownRows.map (rowLine widths) ++ [border]

end Table

end Calculator.Text
