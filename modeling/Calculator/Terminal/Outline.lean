import Calculator.Terminal.Wrap

/-!
# Outlines

A tree of labels drawn with guides, and the frame around it.

## Main definitions

* `Outline`: a label with the outlines below it
* `Outline.lines width o`: the lines of an outline
* `frame title lines`: lines in a frame of the width of the terminal
-/

namespace Calculator.Terminal

open Text

/-- A label, and the outlines below it. -/
inductive Outline where
  /-- A label without anything below it. -/
  | leaf (label : List Char)
  /-- A label with two outlines below it. -/
  | branch (label : List Char) (first second : Outline)
  /-- A label with one outline below it. -/
  | stem (label : List Char) (only : Outline)

namespace Outline

/-- The guides of a node: those in front of the first line of its label, and those in front of the
lines after it and of all that stands below it. -/
structure Guides where
  /-- The guide of the first line. -/
  first : String
  /-- The guide of the other lines. -/
  rest : String

/-- The guides of a node that others follow. -/
def fork : Guides := ⟨"├── ", "│   "⟩

/-- The guides of the last node. -/
def corner : Guides := ⟨"└── ", "    "⟩

/-- The lines of a label: none where the guides leave no room. -/
def labelLines (width : Nat) (first rest : List Char) (label : List Char) : List (List Char) :=
  let room := width - rest.length
  if room = 0 then []
  else match wrap room label with
    | [] => []
    | line :: lines => (first ++ line) :: lines.map (rest ++ ·)

/-- The lines of an outline below guides. -/
def linesBelow (width : Nat) (first rest : List Char) : Outline → List (List Char)
  | leaf label => labelLines width first rest label
  | branch label a b =>
    labelLines width first rest label ++
      a.linesBelow width (rest ++ fork.first.toList) (rest ++ fork.rest.toList) ++
      b.linesBelow width (rest ++ corner.first.toList) (rest ++ corner.rest.toList)
  | stem label a =>
    labelLines width first rest label ++
      a.linesBelow width (rest ++ corner.first.toList) (rest ++ corner.rest.toList)

/-- The lines of an outline. -/
def lines (width : Nat) (o : Outline) : List (List Char) :=
  o.linesBelow width [] []

end Outline

/-- The cells between the sides of a frame, a space at either side left out. -/
def frameRoom : Nat := terminalWidth - 4

/-- Lines in a frame with a title in the middle of its upper edge. -/
def frame (title : String) (lines : List (List Char)) : List (List Char) :=
  let heading := ' ' :: title.toList ++ [' ']
  let excess := frameRoom - cellWidth heading
  let top := ['╭', '─'] ++ List.replicate (excess / 2) '─' ++ heading ++
    List.replicate (excess - excess / 2) '─' ++ ['─', '╮']
  let side (line : List Char) : List Char := ['│', ' '] ++ padRight frameRoom line ++ [' ', '│']
  [top] ++ lines.map side ++ ['╰' :: List.replicate (terminalWidth - 2) '─' ++ ['╯']]

end Calculator.Terminal
