import Calculator.Terminal.Line

/-!
# Wrapping

Text is broken into lines between words.  A word keeps the white space after it; one that is longer
than a line begins on a new line and is folded.

## Main definitions

* `words line`: the words of a line
* `fold width word`: a word cut into pieces of at most `width` cells
* `wrapLine width line`, `wrap width text`: the lines that a line and a text are broken into
-/

namespace Calculator.Terminal

open Text

/-- The words of a line, each with the white space after it; white space at the beginning belongs to
the first word, and a line of white space has no word. -/
def words (line : List Char) : List (List Char) :=
  match _h : line.dropWhile isSpace with
  | [] => []
  | c :: cs =>
    let after := cs.dropWhile fun c => !isSpace c
    (line.takeWhile isSpace ++ c :: cs.takeWhile (fun c => !isSpace c) ++
      after.takeWhile isSpace) :: words (after.dropWhile isSpace)
termination_by line.length
decreasing_by
  have h₁ := (List.dropWhile_suffix (l := line) isSpace).length_le
  have h₂ := (List.dropWhile_suffix (l := cs) fun c => !isSpace c).length_le
  have h₃ := (List.dropWhile_suffix (l := cs.dropWhile fun c => !isSpace c) isSpace).length_le
  rw [_h, List.length_cons] at h₁
  omega

/-- Puts clusters into pieces of at most `width` cells.  `piece` is the one that is filled, and
`used` counts its cells. -/
def foldFrom (width : Nat) (piece : List Char) (used : Nat) : List Cluster → List (List Char)
  | [] => [piece]
  | k :: ks =>
    if width < used + k.width then piece :: foldFrom width k.chars k.width ks
    else foldFrom width (piece ++ k.chars) (used + k.width) ks

/-- A word cut into pieces of at most `width` cells.  The first piece is empty if the first cluster
is wider than that. -/
def fold (width : Nat) (word : List Char) : List (List Char) :=
  foldFrom width [] 0 (clusters word)

/-- Puts words into lines.  `line` is the one that is filled, and `used` counts the cells of its
words. -/
def fill (width : Nat) (line : List Char) (used : Nat) : List (List Char) → List (List Char)
  | [] => [line]
  | word :: rest =>
    let length := cellWidth (dropEnd isSpace word)
    if used + length ≤ width then fill width (line ++ word) (used + cellWidth word) rest
    else if length ≤ width then line :: fill width word (cellWidth word) rest
    else
      let pieces := fold width word
      let last := pieces.getLastD []
      (line :: pieces.dropLast).dropWhile (·.isEmpty) ++ fill width last (cellWidth last) rest

/-- The lines that a line is broken into. -/
def wrapLine (width : Nat) (line : List Char) : List (List Char) :=
  let line := expandTabs line
  match words line with
  | [] => [crop width (cropBlanks width line)]
  | ws => (fill width [] 0 ws).map fun l => crop width (cropBlanks width l)

/-- The lines that a text is broken into. -/
def wrap (width : Nat) (text : List Char) : List (List Char) :=
  (splitOn '\n' (dropControls text)).flatMap (wrapLine width)

end Calculator.Terminal
