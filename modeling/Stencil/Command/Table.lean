/-
This file draws tables for a terminal. A frame stands around the rows and a double
line below the header; the columns are as wide as their widest line, with a blank
on both sides of every cell and one between the columns. A cell of several lines
makes its row several lines high.
-/

import Stencil.Width.Line
import Stencil.Command.Outcome

namespace Stencil

namespace Table

/-- The lines of a cell. -/
def cellLines (cell : Text) : List Text :=
  cell.splitOn '\n'

/-- The columns of a terminal that a cell takes. -/
def cellWidth (cell : Text) : Nat :=
  ((cellLines cell).map Text.width).foldl max 0

/-- The widths of the columns: the greatest widths of their cells. -/
def columnWidths (rows : List (List Text)) : List Nat :=
  rows.foldl (fun widths row =>
    (widths.zip (row.map cellWidth)).map fun (first, second) => max first second)
    ((rows.headD []).map cellWidth)

/-- A line of a cell filled up to the width of its column, with a blank on both sides. -/
def padded (width : Nat) (line : Text) : Text :=
  ' ' :: line ++ List.replicate (width - line.width) ' ' ++ [' ']

/-- A line of the frame. -/
def rule (left fill right : Char) (widths : List Nat) : Text :=
  let spaces := (widths.map (· + 2)).foldr (· + ·) 0
  left :: List.replicate (spaces + (widths.length - 1)) fill ++ [right]

/-- One line of a row. -/
def rowLine (widths : List Nat) (cells : List (List Text)) (index : Nat) : Text :=
  let shown := (widths.zip cells).map fun (width, lines) => padded width (lines.getD index [])
  '│' :: [' '].intercalate shown ++ ['│']

/-- The lines of a row. -/
def rowLines (widths : List Nat) (row : List Text) : List Text :=
  let cells := row.map cellLines
  let height := (cells.map List.length).foldl max 1
  (List.range height).map (rowLine widths cells)

/-- The lines of a table with a header. -/
def lines (header : List Text) (rows : List (List Text)) : List Text :=
  let widths := columnWidths (header :: rows)
  [rule '┌' '─' '┐' widths] ++ rowLines widths header ++ [rule '╞' '═' '╡' widths] ++
    rows.flatMap (rowLines widths) ++ [rule '└' '─' '┘' widths]

/-- A table with a header, every line with its end. -/
def draw (header : List Text) (rows : List (List Text)) : Text :=
  (lines header rows).flatMap asLine

end Table

end Stencil
