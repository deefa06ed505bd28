import Calculator.Text.Cluster
import Calculator.Text.Space
import Calculator.Text.Split

/-!
# Lines of a terminal

The preparation of text for a terminal, and the fitting of lines into a number of cells.

## Main definitions

* `terminalWidth`: the cells of a line
* `dropControls`, `expandTabs`: text made into visible characters
* `cropBlanks`, `crop`, `ellipsize`: lines made shorter
* `padRight`, `padLeft`, `center`: lines made longer
-/

namespace Calculator.Terminal

open Text

/-- The number of cells in a line of the terminal. -/
def terminalWidth : Nat := 80

/-- Some spaces. -/
def spaces (n : Nat) : List Char :=
  List.replicate n ' '

/-- A text without the characters that would ring the bell or move the cursor: bell, backspace,
vertical tab, form feed and carriage return. -/
def dropControls (cs : List Char) : List Char :=
  cs.filter fun c => ¬ [7, 8, 11, 12, 13].contains c.toNat

/-- Parts of a line with spaces between them, at least one and up to the next multiple of eight
cells.  `column` counts the cells before the parts. -/
def joinAtTabStops (column : Nat) : List (List Char) → List Char
  | [] => []
  | [part] => part
  | part :: parts =>
    let past := column + cellWidth (part ++ [' '])
    let fill := (8 - past % 8) % 8
    part ++ [' '] ++ spaces fill ++ joinAtTabStops (past + fill) parts

/-- A line with each tab made spaces up to the next multiple of eight cells. -/
def expandTabs (line : List Char) : List Char :=
  joinAtTabStops 0 (splitOn '\t' line)

/-- A line without the white space at its end by which it has more than `width` characters. -/
def cropBlanks (width : Nat) (line : List Char) : List Char :=
  let blanks := (line.reverse.takeWhile isSpace).length
  line.take (line.length - min blanks (line.length - width))

/-- The characters of the clusters that fit into `width` cells; a wide cluster that fits by half is
made a space. -/
def takeCells (width : Nat) : List Cluster → List Char
  | [] => []
  | k :: ks =>
    if width = 0 then []
    else if k.width ≤ width then k.chars ++ takeCells (width - k.width) ks
    else [' ']

/-- A line without what does not fit into `width` cells. -/
def crop (width : Nat) (line : List Char) : List Char :=
  if cellWidth line ≤ width then line else takeCells width (clusters line)

/-- A line that has more than `width` cells cut to that, with an ellipsis in the last one. -/
def ellipsize (width : Nat) (line : List Char) : List Char :=
  if cellWidth line ≤ width then line else crop (width - 1) line ++ ['…']

/-- A line filled up with spaces at its end. -/
def padRight (width : Nat) (line : List Char) : List Char :=
  line ++ spaces (width - cellWidth line)

/-- A line filled up with spaces at its beginning. -/
def padLeft (width : Nat) (line : List Char) : List Char :=
  spaces (width - cellWidth line) ++ line

/-- A line between spaces, the surplus one at its end. -/
def center (width : Nat) (line : List Char) : List Char :=
  padRight width (spaces ((width - cellWidth line) / 2) ++ line)

end Calculator.Terminal
