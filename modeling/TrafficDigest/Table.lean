import TrafficDigest.Text.Width

/-!
# Tables in boxes

A table is shown in a box drawn with lines: a row of headers, a line below it, and the other rows.
A column is as wide as its widest line, with a blank at either side; a row is as high as its cell
with the most lines.
-/

namespace TrafficDigest.Table

/-- The lines of a cell. -/
def lines (cell : String) : List (List Char) := cell.toList.splitOn '\n'

/-- The number of columns that a cell takes. -/
def cellWidth (cell : String) : Nat := ((lines cell).map Text.width).foldl max 0

/-- A line with blanks up to a width. -/
def pad (width : Nat) (line : List Char) : List Char :=
  line ++ List.replicate (width - Text.width line) ' '

/-- The widths of the columns of rows that all have as many cells. -/
def columnWidths (columns : Nat) (rows : List (List String)) : List Nat :=
  (List.range columns).map fun i => (rows.map fun row => cellWidth (row.getD i "")).foldl max 0

/-- A line with one part for each column, between marks. -/
def ruled (left middle right : List Char) (parts : List (List Char)) : List Char :=
  left ++ middle.intercalate parts ++ right

/-- A line drawn across the table. -/
def rule (left middle right : Char) (widths : List Nat) : List Char :=
  ruled [left] [middle] [right] (widths.map fun w => List.replicate (w + 2) '─')

/-- The lines of a row. -/
def rowLines (widths : List Nat) (row : List String) : List (List Char) :=
  let cells := (List.range widths.length).map fun i => lines (row.getD i "")
  let height := (cells.map List.length).foldl max 0
  (List.range height).map fun k =>
    ruled ['│', ' '] [' ', '│', ' '] [' ', '│']
      (cells.zipWith (fun cell w => pad w (cell.getD k [])) widths)

/-- **The table with these headers and rows**, without a line break at its end.  Short rows have
empty cells at their end.  Below headers without rows there is no closing line, and a table without
columns is empty. -/
def render (headers : List String) (rows : List (List String)) : String :=
  let all := headers :: rows
  let columns := (all.map List.length).foldl max 0
  let widths := columnWidths columns all
  if columns = 0 then ""
  else
    let top := rule '╭' '┬' '╮' widths
    let below := rule '├' '┼' '┤' widths
    let body := match rows with
      | [] => []
      | _ => rows.flatMap (rowLines widths) ++ [rule '╰' '┴' '╯' widths]
    String.ofList (['\n'].intercalate (top :: rowLines widths headers ++ below :: body))

end TrafficDigest.Table
