import CallRouting.Text.Search
import CallRouting.Text.Width

/-!
# Tables

A `Table` is drawn with lines around its cells. A column is as wide as the widest line in it, and a
row as high as its highest cell.

* `Table.widths` : the width of each column;
* `Table.drawRow` : the lines of one row;
* `Table.border` : a line between rows;
* `Table.draw` : the whole table.
-/

namespace CallRouting.Report

structure Table where
  header : List String
  rows : List (List String)

namespace Table

/-- The lines of a cell. -/
def cellLines (cell : String) : List String := Text.pieces '\n' cell

def cellWidth (cell : String) : Nat := (cellLines cell).foldl (fun w l => max w (Text.width l)) 0

/-- The greater of two numbers in each place. -/
def widest : List Nat → List Nat → List Nat
  | [], ns => ns
  | ms, [] => ms
  | m :: ms, n :: ns => max m n :: widest ms ns

def widths (t : Table) : List Nat :=
  (t.header :: t.rows).foldl (fun ws row => widest ws (row.map cellWidth)) []

/-! ## Drawing -/

def blanks (n : Nat) : String := String.ofList (List.replicate n ' ')

/-- A line of a cell, between two blanks and filled up to the width of its column. -/
def padded (width : Nat) (line : String) : String :=
  " " ++ line ++ blanks (width - Text.width line) ++ " "

/-- One line of a row, of which some cells may have come to an end. -/
def drawLine (widths : List Nat) (cells : List String) : String :=
  "│" ++ "┆".intercalate (List.zipWith padded widths cells) ++ "│"

def drawRow (widths : List Nat) (row : List String) : List String :=
  let cells := row.map cellLines
  let height := cells.foldl (fun h ls => max h ls.length) 0
  (List.range height).map fun i => drawLine widths (cells.map fun ls => ls[i]?.getD "")

/-- A line between rows. -/
def border (left fill cross right : String) (widths : List Nat) : String :=
  left ++ cross.intercalate (widths.map fun w => String.join (List.replicate (w + 2) fill)) ++ right

def draw (t : Table) : String :=
  let ws := t.widths
  let rows := t.rows.map (drawRow ws)
  "\n".intercalate <|
    border "┌" "─" "┬" "┐" ws :: drawRow ws t.header ++
      border "╞" "═" "╪" "╡" ws :: [border "├" "╌" "┼" "┤" ws].intercalate rows ++
        [border "└" "─" "┴" "┘" ws]

end Table
end CallRouting.Report
