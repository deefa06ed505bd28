import Calculator.Text.Split

/-!
# Paths

Paths of files, as they are given and as they are shown.

## Main definitions

* `Path`: a root and the names below it
* `Path.ofString`, `Path.text`: the passage from and to text, without empty names and single dots
* `Path.parent`: the path without its last name
-/

namespace Calculator

/-- A path of a file or directory. -/
structure Path where
  /-- The slashes at the beginning of an absolute path; a relative path has none. -/
  root : String
  /-- The names from the root or the working directory down. -/
  names : List String
deriving DecidableEq, Repr

namespace Path

/-- The root that a text begins with: one slash stands for any number of them but two. -/
def rootOf (cs : List Char) : String :=
  match cs.takeWhile (· == '/') with
  | [] => ""
  | [_, _] => "//"
  | _ => "/"

/-- The names in a text, empty ones and dots among them. -/
def namesIn (s : String) : List String :=
  (Text.splitOn '/' s.toList).map String.ofList

/-- The path that a text writes. -/
def ofString (s : String) : Path :=
  ⟨rootOf s.toList, (namesIn s).filter fun name => name ≠ "" ∧ name ≠ "."⟩

/-- The text of a path; the working directory is written as a dot. -/
def text (p : Path) : String :=
  if p.root = "" ∧ p.names = [] then "." else p.root ++ "/".intercalate p.names

/-- The path without its last name. -/
def parent (p : Path) : Path :=
  { p with names := p.names.dropLast }

end Path

end Calculator
