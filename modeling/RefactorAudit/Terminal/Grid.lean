-- SUMMARY: Tables drawn with lines.
import RefactorAudit.Terminal.Width
import RefactorAudit.Text.Blank

/-!
# Grids

A grid has a header and rows of cells. A column is as wide as its widest line; a cell may have
several lines, and the other cells of its row are filled up below. Double lines stand under the
header, dashed ones between the rows.
-/

namespace RefactorAudit.Terminal

/-- A row of cells, each one a list of lines. -/
abbrev Cells := List (List (List Char))

namespace Grid

/-- The cells of a row, from their texts. -/
def cells (texts : List String) : Cells := texts.map fun t => Text.split (· = '\n') t.toList

/-- The width of a cell: that of its widest line. -/
def cellWidth (cell : List (List Char)) : Nat := (cell.map width).foldl max 0

/-- The widths of the columns, for rows of equal length. -/
def widths (rows : List Cells) : List Nat :=
  match rows with
  | [] => []
  | first :: rest =>
    rest.foldl (fun all row => List.zipWith max all (row.map cellWidth)) (first.map cellWidth)

/-- A line with blanks behind it, up to a width. -/
def padded (size : Nat) (line : List Char) : List Char :=
  line ++ List.replicate (size - width line) ' '

/-- A rule across the grid. -/
def rule (left line cross right : String) (sizes : List Nat) : String :=
  let parts := sizes.map fun size => "".intercalate (List.replicate (size + 2) line)
  left ++ cross.intercalate parts ++ right

/-- The lines of a row. -/
def rowLines (sizes : List Nat) (row : Cells) : List String :=
  let height := (row.map List.length).foldl max 1
  (List.range height).map fun n =>
    let parts := List.zipWith (fun size (cell : List (List Char)) =>
      " " ++ String.ofList (padded size (cell.getD n [])) ++ " ") sizes row
    "│" ++ "┆".intercalate parts ++ "│"

/-- The lines of a grid. -/
def lines (header : Cells) (rows : List Cells) : List String :=
  let sizes := widths (header :: rows)
  let between := rule "├" "╌" "┼" "┤" sizes
  [rule "┌" "─" "┬" "┐" sizes] ++ rowLines sizes header ++ [rule "╞" "═" "╪" "╡" sizes]
    ++ [between].intercalate (rows.map (rowLines sizes))
    ++ [rule "└" "─" "┴" "┘" sizes]

end Grid

end RefactorAudit.Terminal
