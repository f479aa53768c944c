import Footprint.Decimal.Fixed
import Footprint.Text.Width

namespace Footprint

namespace Cell

def signed (amount : Int) : String :=
  if 0 < amount then s!"+{amount}" else toString amount

def percentage (share : Float32) : String :=
  Decimal.fixed 1 (share * 100) ++ "%"

/--
The end of a name, which is what tells it best from others. A limit below four characters leaves no
room for the dots and the end, so it is no limit.
-/
def shorten (limit : Nat) (name : String) : String :=
  if name.length ≤ limit ∨ limit < 4 then
    name
  else
    "..." ++ .ofList (name.toList.drop (name.length - (limit - 3)))

end Cell

structure Table where
  titles : List String
  rows : List (List String)
  deriving DecidableEq, Repr

namespace Table

def lineWidth (line : String) : Nat :=
  Text.width line.toList

def cellLines (cell : String) : List String :=
  cell.splitOn "\n"

def cellWidth (cell : String) : Nat :=
  ((cellLines cell).map lineWidth).foldl max 0

def allRows (t : Table) : List (List String) :=
  t.titles :: t.rows

def columnWidths (t : Table) : List Nat :=
  (List.range t.titles.length).map fun column =>
    (t.allRows.map fun row => cellWidth (row[column]?.getD "")).foldl max 0

def fill (width : Nat) (line : String) : String :=
  line ++ String.ofList (List.replicate (width - lineWidth line) ' ')

def rowLines (widths : List Nat) (row : List String) : List String :=
  let cells := row.map cellLines
  let height := (cells.map List.length).foldl max 0
  (List.range height).map fun i =>
    let parts := (cells.zip widths).map fun (lines, width) => fill width (lines[i]?.getD "")
    "│ " ++ String.intercalate " ┆ " parts ++ " │"

def rule (left stroke crossing right : String) (widths : List Nat) : String :=
  let strokes (width : Nat) : String := String.join (List.replicate (width + 2) stroke)
  left ++ String.intercalate crossing (widths.map strokes) ++ right

def lines (t : Table) : List String :=
  let widths := t.columnWidths
  [rule "╭" "─" "┬" "╮" widths] ++ rowLines widths t.titles ++ [rule "╞" "═" "╪" "╡" widths]
    ++ t.rows.flatMap (rowLines widths) ++ [rule "╰" "─" "┴" "╯" widths]

end Table

end Footprint
