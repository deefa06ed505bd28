import Calculator.Terminal.Action.Argument
import Calculator.Terminal.Emoji
import Calculator.Terminal.Style

/-!
# Markup

Text for the terminal may hold tags in square brackets, such as `[dim]` and `[/dim]`, which set off
parts of it, and names of emoji.  A backslash before a bracket takes its meaning away.  Tags are
partners if they mean the same style, in whatever words.

## Main definitions

* `Markup.Item`, `Markup.items`: the pieces of a text with markup
* `Markup.read text`: the text without its tags, its emoji in place, and the spans of its styles
* `MarkupError`: what can be wrong with tags
-/

namespace Calculator

/-- What is wrong with the tags of a text. -/
inductive MarkupError where
  /-- No open tag has the name of the closing tag. -/
  | unmatched (tag : String) (position : Nat)
  /-- A closing tag without a name stands where no tag is open. -/
  | nothingOpen (position : Nat)
  /-- The text of the value of an action cannot be read. -/
  | unreadableAction (parameter text reason : String)
  /-- The value of an action does not exist. -/
  | noActionValue (parameter reason : String)
  /-- A color leaves one of its three parts empty. -/
  | emptyColorPart
deriving DecidableEq, Repr

/-- The text of the error. -/
def MarkupError.message : MarkupError → String
  | unmatched tag position =>
    "closing tag '" ++ tag ++ "' at position " ++ toString position ++ " doesn't match any open tag"
  | nothingOpen position =>
    "closing tag '[/]' at position " ++ toString position ++ " has nothing to close"
  | unreadableAction parameter text reason =>
    "error parsing " ++ quoted text ++ " in " ++ quoted parameter ++ "; " ++ reason
  | noActionValue parameter reason => "error parsing " ++ quoted parameter ++ "; " ++ reason
  | emptyColorPart => "invalid literal for int() with base 10: ''"

namespace Markup

open Terminal Text

/-- A piece of a text with markup. -/
inductive Item where
  /-- Characters as they stand. -/
  | run (cs : List Char)
  /-- Characters that backslashes set off from those around them. -/
  | literal (cs : List Char)
  /-- A tag, without its brackets, and its place. -/
  | tag (content : List Char) (position : Nat)
deriving DecidableEq, Repr

/-- Whether a tag may begin with a character. -/
def beginsTag (c : Char) : Bool :=
  ('a' ≤ c && c ≤ 'z') || c = '#' || c = '/' || c = '@'

/-- The content of the tag whose opening bracket stands in front of a text. -/
def tagContent? : List Char → Option (List Char)
  | [] => none
  | c :: cs =>
    let body := cs.takeWhile fun c => c ≠ '[' && c ≠ ']'
    if beginsTag c && (cs.drop body.length).head? = some ']' then some (c :: body) else none

/-- The items with some characters in front. -/
def prepend (cs : List Char) : List Item → List Item
  | .run more :: rest => .run (cs ++ more) :: rest
  | rest => .run cs :: rest

/-- The items of a text whose first character stands at `position`.  Of backslashes before a tag
each pair stands for one; one that is left over makes the tag plain text.  Before another opening
bracket one backslash is left out. -/
def items (position : Nat) : List Char → List Item
  | [] => []
  | c :: cs =>
    let escapes := ((c :: cs).takeWhile (· == '\\')).length
    match (c :: cs).drop escapes with
    | '[' :: rest =>
      match tagContent? rest with
      | some content =>
        let length := escapes + content.length + 2
        let slashes := Item.literal (List.replicate (escapes / 2) '\\')
        let item :=
          if escapes % 2 = 1 then Item.literal ('[' :: content ++ [']'])
          else Item.tag content (position + escapes)
        slashes :: item :: items (position + length) (cs.drop (length - 1))
      | none =>
        prepend (List.replicate (escapes - 1) '\\' ++ ['['])
          (items (position + escapes + 1) (cs.drop escapes))
    | _ => prepend [c] (items (position + 1) cs)
termination_by cs => cs.length
decreasing_by
  all_goals (simp only [List.length_drop, List.length_cons]; omega)

/-- A tag that is not closed yet. -/
structure OpenTag where
  /-- The name in its normal form. -/
  name : String
  /-- What follows the equals sign. -/
  parameter : Option String
  /-- The number of characters shown before the tag. -/
  first : Nat
deriving DecidableEq, Repr

/-- A part of the shown text and its style. -/
structure Span where
  /-- The number of characters before it. -/
  first : Nat
  /-- The number of characters up to its end. -/
  past : Nat
  /-- The words of the style. -/
  style : String
deriving DecidableEq, Repr

/-- The span of a tag that is closed after some characters. -/
def OpenTag.span (tag : OpenTag) (past : Nat) : Span :=
  ⟨tag.first, past,
    match tag.parameter with
    | some parameter => tag.name ++ " " ++ parameter
    | none => tag.name⟩

/-- The text that markup shows. -/
structure Marked where
  /-- The characters. -/
  chars : List Char
  /-- The spans of the styles. -/
  spans : List Span
deriving DecidableEq, Repr

/-- The name of a tag in its normal form. -/
def normalName (name : List Char) : Except MarkupError String :=
  (normalStyle name).mapError fun _ => .emptyColorPart

/-- Checks the action that a tag binds, if it binds one. -/
def checkAction (tag : OpenTag) : Except MarkupError Unit :=
  match tag.name.toList, tag.parameter.filter (· ≠ "") with
  | '@' :: _, some parameter =>
    (Action.checkParameter parameter.toList).mapError fun
      | .unreadable text reason => .unreadableAction parameter (String.ofList text) reason
      | .noValue reason => .noActionValue parameter reason
  | _, _ => .ok ()

/-- The content of a tag up to its first equals sign, and what follows the sign. -/
def splitTag (content : List Char) : List Char × Option String :=
  let name := content.takeWhile (· ≠ '=')
  match content.drop name.length with
  | [] => (name, none)
  | _ :: parameter => (name, some (String.ofList parameter))

/-- The tag that a closing tag closes, and the tags that are open after it. -/
def closeTag (opened : List OpenTag) (content name : List Char) (position : Nat) :
    Except MarkupError (OpenTag × List OpenTag) := do
  let name := trim name
  if name = [] then
    match opened with
    | [] => throw (.nothingOpen position)
    | tag :: opened => return (tag, opened)
  else
    let normal ← normalName name
    match opened.find? (·.name = normal) with
    | none => throw (.unmatched (String.ofList ('[' :: content ++ [']'])) position)
    | some tag => return (tag, opened.eraseP (·.name = normal))

/-- What items show, `opened` being the tags that are open, the latest first, and `shown` the number
of characters before the items. -/
def readItems (opened : List OpenTag) (shown : Nat) : List Item → Except MarkupError Marked
  | [] => .ok ⟨[], opened.map (·.span shown)⟩
  | .run cs :: rest | .literal cs :: rest => do
    let cs := Emoji.replace cs
    let marked ← readItems opened (shown + cs.length) rest
    return { marked with chars := cs ++ marked.chars }
  | .tag content position :: rest => do
    let (name, parameter) := splitTag content
    match name with
    | '/' :: name =>
      let (tag, opened) ← closeTag opened content name position
      checkAction tag
      let marked ← readItems opened shown rest
      return { marked with spans := tag.span shown :: marked.spans }
    | _ => readItems (⟨← normalName name, parameter, shown⟩ :: opened) shown rest

/-- A text without its tags, its emoji in place, and the spans of its styles. -/
def read (text : List Char) : Except MarkupError Marked :=
  readItems [] 0 (items 0 text)

/-- Checks the styles of the spans that are drawn.  An empty span is drawn only in a text that is
neither broken into lines nor cut at tabs. -/
def Marked.checkStyles (m : Marked) (isBroken : Bool) : Except MarkupError Unit :=
  let isCut := isBroken || m.chars.contains '\t'
  (m.spans.filter fun span => span.first < span.past || !isCut).forM fun span =>
    match Style.ofText span.style.toList with
    | .error .emptyPart => .error .emptyColorPart
    | _ => .ok ()

end Markup

end Calculator
