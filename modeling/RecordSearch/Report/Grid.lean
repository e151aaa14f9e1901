import RecordSearch.Json.Printer
import RecordSearch.Text.Wrap

/-!
# Grids and boxes

Values are laid out in columns that are as wide as their widest cell: in a grid whose headings stand
on its upper rule, or as bare pairs. A text of several lines can be put into a box.
-/

namespace RecordSearch

/-- A character, so many times. -/
def repeated (c : Char) (n : Nat) : String := String.ofList (List.replicate n c)

/-- The width of the widest cell. -/
def widest (cells : List String) : Nat := (cells.map Text.columnWidth).foldl max 0

/-- The edge of its row at which a cell stands. -/
inductive Edge where
  | top
  | bottom
  deriving DecidableEq, Repr

/-- How the cells of a row are laid out. -/
structure CellLayout where
  edge : Edge := .top
  long : Text.LongWord := .folded
  deriving DecidableEq, Repr

/-- A line of a cell filled up with spaces. A space that is joined to the line does not fill it, so
one more takes its place. -/
def filledCell (size : Nat) (line : List Char) : String :=
  String.ofList (Text.fill size (Text.fill size line))

/-- The lines of a cell in a row of a given height; blank lines fill the row. -/
def CellLayout.cellLines (layout : CellLayout) (height size : Nat) (lines : List String) :
    List String :=
  let blank := List.replicate (height - lines.length) (repeated ' ' size)
  match layout.edge with
  | .top => lines ++ blank
  | .bottom => blank ++ lines

/-- The cells of a row line by line: a row has as many lines as its highest cell, and one at
least. -/
def CellLayout.rowLines (layout : CellLayout) (sizes : List Nat) (row : List String) :
    List (List String) :=
  let cells := (sizes.zip row).map fun p =>
    (p.1, (Text.columnLines layout.long p.1 p.2).map (filledCell p.1))
  let height := (cells.map fun cell => cell.2.length).foldl max 1
  (List.range height).map fun k =>
    cells.map fun cell => (layout.cellLines height cell.1 cell.2)[k]?.getD ""

/-- A line of a grid: its cells between two edges, with a bar between each two of them. -/
def gridLine (left bar right : String) (cells : List String) : String :=
  left ++ Json.join bar cells ++ right

/-- A grid: the headings over the rows, all of which have as many cells. Without columns it is an
empty line. -/
def gridLines (headings : List String) (rows : List (List String)) : List String :=
  if headings.isEmpty then [""]
  else
    let sizes := (List.range headings.length).map fun k =>
      widest ((headings :: rows).map fun row => row[k]?.getD "")
    let rule (c : Char) := sizes.map fun size => repeated c (size + 2)
    let cells (layout : CellLayout) (bar : String) (row : List String) :=
      (layout.rowLines sizes row).map fun line =>
        gridLine bar bar bar (line.map fun cell => " " ++ cell ++ " ")
    [gridLine "┏" "┳" "┓" (rule '━')] ++ cells { edge := .bottom } "┃" headings ++
      [gridLine "┡" "╇" "┩" (rule '━')] ++ rows.flatMap (cells {} "│") ++
      [gridLine "└" "┴" "┘" (rule '─')]

/-- Pairs in two columns. -/
def pairLines (pairs : List (String × String)) : List String :=
  let sizes := [widest (pairs.map (·.1)), widest (pairs.map (·.2))]
  pairs.flatMap fun p =>
    (CellLayout.rowLines { long := .shortened } sizes [p.1, p.2]).map fun line =>
      " " ++ Json.join "  " line ++ " "

/-- A text in a box. -/
def boxLines (text : String) : List String :=
  let size := Text.columnWidth text
  ("╭" ++ repeated '─' (size + 2) ++ "╮") ::
    (Text.columnLines .folded size text).map
      (fun line => "│ " ++ String.ofList (Text.fill size line) ++ " │") ++
    ["╰" ++ repeated '─' (size + 2) ++ "╯"]

end RecordSearch
