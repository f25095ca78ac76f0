import MediaHash.Text.Wrap

/-!
# Grids of text

A grid is drawn with lines around every cell.  A column is as wide as the
widest line in it, with a space on both sides, and a row is as high as its
highest cell.  No column is wider than `widest`: lines that are wider are
broken, and of a column that wide the spaces are not counted.
-/

namespace MediaHash.Grid

/-- The lines of one cell. -/
abbrev Cell := List (List Char)

/-- The cell that holds a text, split at line feeds. -/
def cell (text : String) : Cell :=
  Text.pieces '\n' text.toList

/-- The width that no column exceeds. -/
def widest : Nat :=
  65535

/-- The width of the widest line of a cell, as far as a column can hold it. -/
def cellWidth (cell : Cell) : Nat :=
  min widest ((cell.map Text.width).foldl max 0)

/-- The widths of the columns that hold the cells of all rows. -/
def columnWidths (rows : List (List Cell)) : List Nat :=
  rows.foldl
    (fun widths row =>
      let here := row.map cellWidth
      (List.range (max widths.length here.length)).map fun column =>
        max (widths.getD column 0) (here.getD column 0)) []

/-- The width of a column with the spaces on both sides. -/
def outerWidth (width : Nat) : Nat :=
  min widest (width + 2)

/-- A rule across the grid: its left end, filling, crossing and right end. -/
def rule (widths : List Nat) (left filling crossing right : Char) :
    List Char :=
  left :: [crossing].intercalate
    (widths.map fun width => List.replicate (outerWidth width) filling) ++ [right]

/-- One line of a cell, filled up to a width and with a space on each side. -/
def padded (width : Nat) (line : List Char) : List Char :=
  ' ' :: line ++ List.replicate (width - Text.width line) ' ' ++ [' ']

/-- The lines of a cell, broken and filled up to the width of its column. -/
def paddedLines (width : Nat) (cell : Cell) : List (List Char) :=
  (cell.flatMap (Text.wrap width)).map (padded width)

/-- The lines of a row; below its last line a cell is blank. -/
def rowLines (widths : List Nat) (row : List Cell) : List (List Char) :=
  let columns := (widths.zip row).map fun (width, cell) =>
    (outerWidth width, paddedLines width cell)
  let height := (columns.map fun column => column.2.length).foldl max 1
  (List.range height).map fun index =>
    '│' :: ['┆'].intercalate
      (columns.map fun (width, lines) =>
        lines.getD index (List.replicate width ' ')) ++ ['│']

/-- Rows with a rule between each two of them. -/
def ruledRows (widths : List Nat) : List (List Cell) → List (List Char)
  | [] => []
  | [row] => rowLines widths row
  | row :: rest =>
      rowLines widths row ++ rule widths '├' '╌' '┼' '┤' ::
        ruledRows widths rest

/-- The lines of a grid with a header and rows below it. -/
def lines (header : List String) (rows : List (List String)) :
    List (List Char) :=
  let header := header.map cell
  let rows := rows.map fun row => row.map cell
  let widths := columnWidths (header :: rows)
  rule widths '┌' '─' '┬' '┐' :: rowLines widths header ++
    rule widths '╞' '═' '╪' '╡' :: ruledRows widths rows ++
    [rule widths '└' '─' '┴' '┘']

end MediaHash.Grid
