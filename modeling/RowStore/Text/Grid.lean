import RowStore.Text.Split
import RowStore.Text.Width

/-!
# Grids

Rows of cells in a box of lines. Every column is as wide as its widest cell is shown, with a space on either side; a
cell may have several lines, and there is a rule between any two rows.
-/

namespace RowStore.Text

set_option autoImplicit false

/-- Rows of cells, all of the same number of cells. -/
structure Grid where
  rows : List (List String)
deriving DecidableEq, Repr

namespace Grid

def cellLines (cell : String) : List (List Char) :=
  splitOn '\n' cell.toList

def cellWidth (cell : String) : Nat :=
  ((cellLines cell).map width).foldl max 0

def widen (widths : List Nat) (row : List String) : List Nat :=
  List.zipWith (fun width cell => max width (cellWidth cell)) widths row

def widths (grid : Grid) : List Nat :=
  match grid.rows with
  | [] => []
  | row :: rest => rest.foldl widen (row.map cellWidth)

/-- A rule with its left, inner and right corners. -/
def rule (left inner right : Char) (widths : List Nat) : List Char :=
  left :: join inner (widths.map fun width => List.replicate (width + 2) '─') ++ [right]

/-- A line of a cell with spaces up to its width, and one on either side. -/
def padded (width : Nat) (line : List Char) : List Char :=
  ' ' :: line ++ List.replicate (width - Text.width line + 1) ' '

/-- A row on as many lines as its highest cell has. -/
def rowLines (widths : List Nat) (row : List String) : List (List Char) :=
  let height := (row.map fun cell => (cellLines cell).length).foldl max 1
  (List.range height).map fun i =>
    '│' :: join '│' (List.zipWith (fun width cell => padded width ((cellLines cell).getD i [])) widths row)
      ++ ['│']

/-- The lines of a grid. Without columns there are none. -/
def lines (grid : Grid) : List (List Char) :=
  let widths := grid.widths
  if widths = [] then []
  else
    let rows := grid.rows.map (rowLines widths)
    let ruled := (rows.intersperse [rule '├' '┼' '┤' widths]).flatten
    rule '┌' '┬' '┐' widths :: ruled ++ [rule '└' '┴' '┘' widths]

def text (grid : Grid) : String :=
  String.ofList (join '\n' grid.lines)

end Grid

end RowStore.Text
