import LoadHarness.Text.Search
import LoadHarness.Text.Width

/-! Tables in boxes: a heading and rows of cells, ruled between all of them.

A cell may hold several lines.  Each column is as wide as its widest line, each
row as high as its highest cell, and every cell is filled up with blanks on the
right and empty lines below. -/

namespace LoadHarness.Text

/-- A cell, line by line. -/
abbrev Cell := List (List Char)

def Cell.ofString (text : String) : Cell := splitOnChar '\n' text.toList

/-- The columns that the widest line of a cell takes. -/
def Cell.width (cell : Cell) : Nat := (cell.map Text.width).foldl max 0

/-- Fill a line up with blanks until it takes `columns` columns. -/
def padLine (columns : Nat) (line : List Char) : List Char :=
  line ++ List.replicate (columns - width line) ' '

/-- A table: its heading and its rows have a cell for each column. -/
structure Table where
  heading : List String
  rows : List (List String)

namespace Table

/-- All rows of cells, the heading first. -/
def cells (table : Table) : List (List Cell) :=
  (table.heading :: table.rows).map fun row => row.map Cell.ofString

/-- The width of each column. -/
def widths (table : Table) : List Nat :=
  (List.range table.heading.length).map fun column =>
    (table.cells.map fun row => (row.getD column []).width).foldl max 0

/-- A ruled line with the given corners and crossings. -/
def rule (left middle right : String) (widths : List Nat) : String :=
  left ++ middle.intercalate (widths.map fun n => String.ofList (List.replicate (n + 2) '─')) ++
    right

/-- The lines of one row: as many as its highest cell has. -/
def rowLines (widths : List Nat) (row : List Cell) : List String :=
  let height := (row.map List.length).foldl max 0
  (List.range height).map fun n =>
    "│" ++ String.join ((row.zip widths).map fun (cell, columns) =>
      " " ++ String.ofList (padLine columns (cell.getD n [])) ++ " │")

/-- The lines of a table. -/
def lines (table : Table) : List String :=
  let widths := table.widths
  let between := rule "├" "┼" "┤" widths
  let body := (table.cells.map (rowLines widths)).intersperse [between]
  rule "┌" "┬" "┐" widths :: body.flatten ++ [rule "└" "┴" "┘" widths]

end Table

end LoadHarness.Text
