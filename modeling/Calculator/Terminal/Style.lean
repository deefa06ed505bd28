import Calculator.Terminal.Color
import Calculator.Text.Lower

/-!
# Styles

The look of a piece of text: switches such as `bold`, a color, a background and a link.  A style is
written as words in any order, and styles of the same look have the same normal form.

## Main definitions

* `Style`, `Style.text`: a style and its normal form
* `Style.ofText text`: the style that the words of a text make
* `normalStyle text`: the normal form of the style that a text writes
-/

namespace Calculator.Terminal

open Text

/-- The switches in the order of the normal form. -/
def switches : List String :=
  ["bold", "dim", "italic", "underline", "blink", "blink2", "reverse", "conceal", "strike",
   "underline2", "frame", "encircle", "overline"]

/-- The short words for switches. -/
def shortSwitches : List (String × String) :=
  [("b", "bold"), ("d", "dim"), ("i", "italic"), ("u", "underline"), ("uu", "underline2"),
   ("r", "reverse"), ("s", "strike"), ("o", "overline"), ("c", "conceal")]

/-- The switch that a word stands for. -/
def switchOf? (word : String) : Option String :=
  if switches.contains word then some word else shortSwitches.lookup word

/-- The look of a piece of text. -/
structure Style where
  /-- The switches that are set, on or off, the latest setting first. -/
  settings : List (String × Bool) := []
  /-- The color of the letters. -/
  color : Option String := none
  /-- The color behind the letters. -/
  background : Option String := none
  /-- Where the text leads to. -/
  link : Option String := none
deriving DecidableEq, Repr

namespace Style

/-- The words of a style in the order of the normal form. -/
def words (s : Style) : List String :=
  switches.flatMap (fun name =>
    match s.settings.lookup name with
    | some true => [name]
    | some false => ["not", name]
    | none => []) ++
  s.color.toList ++
  (match s.background with
    | some color => ["on", color]
    | none => []) ++
  (match s.link with
    | some target => ["link", target]
    | none => [])

/-- The normal form of a style; one that changes nothing is written as a word of its own. -/
def text (s : Style) : String :=
  match s.words with
  | [] => "none"
  | words => " ".intercalate words

/-- A style with what some words say.  The word `on` announces a background, `not` a switch that is
off, and `link` a target. -/
def extend (s : Style) : List (List Char) → Except StyleProblem Style
  | [] => .ok s
  | word :: rest =>
    let lowered := lower word
    match String.ofList lowered, rest with
    | "on", color :: rest => do
      checkColor (lower color)
      ({ s with background := some (String.ofList (lower color)) }).extend rest
    | "not", name :: rest =>
      match switchOf? (String.ofList name) with
      | some name => ({ s with settings := (name, false) :: s.settings }).extend rest
      | none => .error .unknown
    | "link", target :: rest => ({ s with link := some (String.ofList target) }).extend rest
    | name, rest =>
      match switchOf? name with
      | some name => ({ s with settings := (name, true) :: s.settings }).extend rest
      | none => do
        checkColor lowered
        ({ s with color := some name }).extend rest

/-- The style that the words of a text make. -/
def ofText (text : List Char) : Except StyleProblem Style :=
  ({} : Style).extend (fields text)

end Style

/-- The normal form of the style that a text writes.  A text that writes none is its own normal
form, in lower case and without white space at its ends. -/
def normalStyle (text : List Char) : Except StyleProblem String :=
  match Style.ofText text with
  | .ok s => .ok s.text
  | .error .unknown => .ok (String.ofList (lower (trim text)))
  | .error .emptyPart => .error .emptyPart

end Calculator.Terminal
