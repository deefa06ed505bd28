import Calculator.Terminal.EmojiNames
import Calculator.Text.Cluster
import Calculator.Text.Lower
import Calculator.Text.Space

/-!
# Emoji

In text for the terminal the name of an emoji between colons stands for the emoji.  The name may end
with `-text` or `-emoji`, which asks for the plain or the coloured form.

## Main definitions

* `Emoji.find? name`: the emoji with a name
* `Emoji.replace text`: a text with the names made emoji
-/

namespace Calculator.Terminal.Emoji

open Text

/-- What follows a name in a list of names and emoji in turn. -/
def findAmong? (name : List Char) : List (List Char) → Option (List Char)
  | key :: emoji :: rest => if key = name then some emoji else findAmong? name rest
  | _ => none

/-- The emoji with a name. -/
def find? (name : List Char) : Option (List Char) :=
  findAmong? (lower name) (fields nameList.toList)

/-- The two forms that can be asked for, and the characters that ask for them. -/
def forms : List (List Char × Char) :=
  [("-text".toList, '\ufe0e'), ("-emoji".toList, emojiSelector)]

/-- The emoji that a text between colons stands for. -/
def ofCode? (code : List Char) : Option (List Char) :=
  match forms.find? fun form => form.1.isSuffixOf code with
  | some (ending, selector) =>
    (find? (code.take (code.length - ending.length))).map (· ++ [selector])
  | none => find? code

/-- A text with the names of emoji made emoji.  A name that does not exist stays as it is, with the
colons around it. -/
def replace : List Char → List Char
  | [] => []
  | c :: cs =>
    if c = ':' then
      let code := cs.takeWhile fun c => !isSpace c && c != ':'
      if (cs.drop code.length).head? = some ':' then
        (ofCode? code).getD (':' :: code ++ [':']) ++ replace (cs.drop (code.length + 1))
      else c :: replace cs
    else c :: replace cs
termination_by cs => cs.length
decreasing_by
  all_goals (simp only [List.length_drop, List.length_cons]; omega)

end Calculator.Terminal.Emoji
