import Calculator.Terminal.Line

/-!
# Grids

Rows of cells under a heading and a title, with rules between the columns.  Columns are as wide as
their widest cell; if that is too much for the terminal, the widest columns give way.

## Main definitions

* `Column`, `Grid`: what is drawn
* `columnWidths`: the widths that the columns get
* `Grid.lines`: the lines of a grid
-/

namespace Calculator.Terminal

open Text

/-- A column: its heading, and whether its cells stand at the right. -/
structure Column where
  /-- The heading. -/
  heading : List Char
  /-- Whether the cells stand at the right. -/
  rightAligned : Bool

/-- A title, columns and rows. -/
structure Grid where
  /-- The title above the grid. -/
  title : List Char
  /-- The columns. -/
  columns : List Column
  /-- The rows, a cell for each column. -/
  rows : List (List (List Char))

/-- The number of cells that columns fill, the rules between them left out. -/
def totalWidth (widths : List Nat) : Nat :=
  widths.foldr (· + ·) 0

/-- The quotient of two natural numbers rounded to the nearest one, halves to the even one. -/
def roundDiv (a b : Nat) : Nat :=
  let q := a / b
  let r := 2 * (a % b)
  if b < r ∨ (b = r ∧ q % 2 = 1) then q + 1 else q

/-- Takes `excess` cells in even shares from those of the columns that are marked, no more than
`limit` from any.  `sharers` counts the marked columns. -/
def takeShares (limit excess sharers : Nat) : List (Nat × Bool) → List Nat
  | [] => []
  | (width, marked) :: rest =>
    if marked then
      let share := min limit (roundDiv excess sharers)
      (width - share) :: takeShares limit (excess - share) (sharers - 1) rest
    else width :: takeShares limit excess sharers rest

/-- Makes columns narrower until they have at most `room` cells in all: the widest ones first go
down to the width of the next.  `rounds` bounds the number of steps. -/
def narrow (rounds room : Nat) (widths : List Nat) : List Nat :=
  match rounds with
  | 0 => widths
  | rounds + 1 =>
    let excess := totalWidth widths - room
    if excess = 0 then widths
    else
      let widest := widths.foldl max 0
      let next := (widths.filter (· ≠ widest)).foldl max 0
      if widest = next then widths
      else
        let marked := widths.map fun w => (w, w == widest)
        narrow rounds room
          (takeShares (min excess (widest - next)) excess (widths.count widest) marked)

/-- The widths of columns whose cells are given column by column, a space at either side of a cell
included.  No column asks for more than the whole room. -/
def columnWidths (room : Nat) (columns : List (List (List Char))) : List Nat :=
  let wanted := columns.map fun cells => min room ((cells.map cellWidth).foldl max 0 + 2)
  narrow (totalWidth wanted + 1) room wanted

/-- A horizontal rule: its left end, its line, its crossings, and its right end. -/
def rule (left line crossing right : Char) (widths : List Nat) : List Char :=
  left :: [crossing].intercalate (widths.map fun w => List.replicate w line) ++ [right]

/-- A row of cells that are as wide as their columns. -/
def rowLine (bar : Char) (cells : List (List Char)) : List Char :=
  bar :: [bar].intercalate cells ++ [bar]

namespace Grid

/-- A cell of a column with a given width. -/
def cell (column : Column) (width : Nat) (text : List Char) : List Char :=
  let shown := ellipsize (width - 2) text
  ' ' :: (if column.rightAligned then padLeft (width - 2) shown else padRight (width - 2) shown) ++
    [' ']

/-- The texts of each column, its heading first. -/
def columnTexts (g : Grid) : List (List (List Char)) :=
  g.columns.zipIdx.map fun (column, i) =>
    column.heading :: g.rows.map fun row => (row[i]?).getD []

/-- The cells of a row. -/
def rowCells (g : Grid) (widths : List Nat) (row : List (List Char)) : List (List Char) :=
  (g.columns.zip (widths.zip row)).map fun (column, width, text) => cell column width text

/-- The lines of a grid. -/
def lines (g : Grid) : List (List Char) :=
  let widths := columnWidths (terminalWidth - (g.columns.length + 1)) g.columnTexts
  let total := totalWidth widths + g.columns.length + 1
  [center total g.title, rule '┏' '━' '┳' '┓' widths,
    rowLine '┃' (g.rowCells widths (g.columns.map (·.heading))), rule '┡' '━' '╇' '┩' widths] ++
  g.rows.map (fun row => rowLine '│' (g.rowCells widths row)) ++
  [rule '└' '─' '┴' '┘' widths]

end Grid

end Calculator.Terminal
