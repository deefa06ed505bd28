import Calculator.Text.Runs

/-!
# Blank characters

White space separates lexemes and is dropped from the ends of names and commands.

## Main definitions

* `isSpace c`: `c` is white space
* `trim cs`: `cs` without the white space at its ends
* `isBlank cs`: `cs` holds white space only
* `fields cs`: the parts of `cs` between white space
-/

namespace Calculator.Text

/-- The code points of white space: tab, line feed, vertical tab, form feed, carriage return, the
four information separators, space, next line, and the spaces and separators beyond ASCII. -/
def spaceRuns : Runs :=
  [9, 14, 28, 33, 133, 134, 160, 161, 5760, 5761, 8192, 8203, 8232, 8234, 8239, 8240, 8287, 8288,
   12288, 12289]

/-- Whether a character is white space. -/
def isSpace (c : Char) : Bool :=
  spaceRuns.contains c.toNat

/-- Whether a text holds white space only. -/
def isBlank (cs : List Char) : Bool :=
  cs.all isSpace

/-- Removes from the end of a text the characters that satisfy `p`. -/
def dropEnd (p : Char → Bool) (cs : List Char) : List Char :=
  (cs.reverse.dropWhile p).reverse

/-- A text without the white space at its beginning and its end. -/
def trim (cs : List Char) : List Char :=
  dropEnd isSpace (cs.dropWhile isSpace)

@[simp] theorem trim_nil : trim [] = [] := rfl

/-- The parts of a text between white space; `part` is the one that is read, its last character
first. -/
def fieldsFrom (part : List Char) : List Char → List (List Char)
  | [] => if part = [] then [] else [part.reverse]
  | c :: cs =>
    if !isSpace c then fieldsFrom (c :: part) cs
    else if part = [] then fieldsFrom [] cs
    else part.reverse :: fieldsFrom [] cs

/-- The parts of a text between white space, none of them empty. -/
def fields (cs : List Char) : List (List Char) :=
  fieldsFrom [] cs

end Calculator.Text
