import FilterQuery.Text.Split
import FilterQuery.Text.Width

/-!
# Tables in boxes

A table is drawn with box characters. Each column is as wide as its widest line, with a blank on
either side, and a cell with several lines makes its row higher.
-/

namespace FilterQuery

/-- A table: its header and its rows, with one cell for each column. -/
structure Table where
  header : List String
  rows : List (List String)

namespace Table

def cellLines (cell : String) : List String :=
  (Text.splitAtChar '\n' cell.toList).map String.ofList

/-- The width of a cell's widest line. -/
def cellWidth (cell : String) : Nat :=
  ((cellLines cell).map Text.width).foldl max 0

def columnWidths (table : Table) : List Nat :=
  table.rows.foldl (fun widths row => List.zipWith max widths (row.map cellWidth))
    (table.header.map cellWidth)

/-- A text filled up with blanks to a width. -/
def pad (width : Nat) (text : String) : String :=
  text ++ String.ofList (List.replicate (width - Text.width text) ' ')

/-- A line of a row: the lines of the cells between bars. -/
def rowLine (widths : List Nat) (texts : List String) : String :=
  let padded := List.zipWith (fun width text => " " ++ pad width text ++ " ") widths texts
  "│" ++ "┆".intercalate padded ++ "│"

def rowLines (widths : List Nat) (cells : List String) : List String :=
  let columns := cells.map cellLines
  let height := (columns.map List.length).foldl max 0
  (List.range height).map fun index => rowLine widths (columns.map (·.getD index ""))

/-- A horizontal line with the given ends, crossings and filling. -/
def ruleLine (opening crossing closing : String) (filling : Char) (widths : List Nat) : String :=
  let segments := widths.map fun width => String.ofList (List.replicate (width + 2) filling)
  opening ++ crossing.intercalate segments ++ closing

def lines (table : Table) : List String :=
  let widths := table.columnWidths
  [ruleLine "┌" "┬" "┐" '─' widths] ++ rowLines widths table.header ++
    [ruleLine "╞" "╪" "╡" '═' widths] ++ table.rows.flatMap (rowLines widths) ++
    [ruleLine "└" "┴" "┘" '─' widths]

/-- The drawn table, without a final line end. -/
def draw (table : Table) : String :=
  "\n".intercalate table.lines

end Table

end FilterQuery
