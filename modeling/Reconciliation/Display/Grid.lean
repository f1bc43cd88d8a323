import Reconciliation.Text.Search
import Reconciliation.Text.Width

/-! # Grids

A grid of text cells drawn with round corners. A cell may have several lines, and every line of a
column is filled up with blanks to the width of the widest one.
-/

namespace Reconciliation

/-- Titled columns with rows of cells. -/
structure Grid where
  header : List String
  rows : List (List String) := []
  deriving DecidableEq, Repr

namespace Grid

def cellLines (cell : String) : List String :=
  (Text.splitAll ['\n'] cell.toList).map String.ofList

/-- The width of the widest line of some cells. -/
def widthOf (cells : List String) : Nat :=
  ((cells.flatMap cellLines).map Text.displayWidth).foldl max 0

/-- The cell of a row in a column. -/
def cellAt (row : List String) (place : Nat) : String :=
  row[place]?.getD ""

def columnWidths (grid : Grid) : List Nat :=
  (List.range grid.header.length).map fun place =>
    widthOf ((grid.header :: grid.rows).map (cellAt · place))

/-- A line filled up with blanks. -/
def padded (width : Nat) (line : String) : String :=
  line ++ String.ofList (List.replicate (width - Text.displayWidth line) ' ')

/-- A border between rows, with its left end, its crossings and its right end. -/
def border (left crossing right : String) (widths : List Nat) : String :=
  let spans := widths.map fun width => String.ofList (List.replicate (width + 2) '─')
  left ++ crossing.intercalate spans ++ right

def rowLine (widths : List Nat) (cells : List (List String)) (place : Nat) : String :=
  let parts := (widths.zip cells).map fun (width, lines) =>
    " " ++ padded width (lines[place]?.getD "") ++ " "
  "│" ++ "│".intercalate parts ++ "│"

/-- The lines of a row, as many as its tallest cell has. -/
def rowLines (widths : List Nat) (row : List String) : List String :=
  let cells := (List.range widths.length).map fun place => cellLines (cellAt row place)
  let height := (cells.map List.length).foldl max 0
  (List.range height).map (rowLine widths cells)

/-- A grid as text. Without rows it has no bottom. -/
def render (grid : Grid) : String :=
  let widths := grid.columnWidths
  let bottom := if grid.rows.isEmpty then [] else [border "╰" "┴" "╯" widths]
  "\n".intercalate <|
    [border "╭" "┬" "╮" widths] ++ rowLines widths grid.header ++ [border "├" "┼" "┤" widths] ++
      grid.rows.flatMap (rowLines widths) ++ bottom

end Grid

end Reconciliation
