import Calculator.Json.Basic

/-!
# Writing JSON

Documents are written with every member and item on a line of its own, indented by two spaces for
each level.

## Main definitions

* `Json.Charset`: whether characters beyond ASCII are written as they are or as escapes
* `Json.write charset v`: the document of a value
-/

namespace Calculator

namespace Json

/-- The characters that a document may hold. -/
inductive Charset where
  /-- The printable characters of ASCII; all others are written as escapes. -/
  | ascii
  /-- All characters but the control characters of ASCII. -/
  | unicode
deriving DecidableEq, Repr

/-- An escape with four hexadecimal digits. -/
def unicodeEscape (n : Nat) : List Char :=
  '\\' :: 'u' :: Quoted.hexDigits 4 n

/-- How a code point is written in a string.  A code point past `0xffff` that has to be escaped is
written as a surrogate pair. -/
def escaped (charset : Charset) (n : Nat) : List Char :=
  if n = 34 ∨ n = 92 then ['\\', Char.ofNat n]
  else if n = 8 then ['\\', 'b']
  else if n = 9 then ['\\', 't']
  else if n = 10 then ['\\', 'n']
  else if n = 12 then ['\\', 'f']
  else if n = 13 then ['\\', 'r']
  else if n < 0x20 then unicodeEscape n
  else if n < 0x7f ∨ charset = .unicode then [Char.ofNat n]
  else if n < 0x10000 then unicodeEscape n
  else
    unicodeEscape (0xd800 + (n - 0x10000) / 0x400) ++
      unicodeEscape (0xdc00 + (n - 0x10000) % 0x400)

/-- A string between quotes. -/
def textChars (charset : Charset) (s : CodePoints) : List Char :=
  '"' :: s.flatMap (escaped charset) ++ ['"']

/-- The words for infinity and what is not a number in documents. -/
def documentStyle : RealStyle := ⟨"Infinity", "NaN"⟩

/-- The beginning of a line at a level. -/
def newLine (level : Nat) : List Char :=
  '\n' :: List.replicate (2 * level) ' '

mutual

/-- The characters of a value that stands at a level. -/
def chars (charset : Charset) (level : Nat) : Json → List Char
  | null => "null".toList
  | bool true => "true".toList
  | bool false => "false".toList
  | integer n => (toString n).toList
  | real x => (realText documentStyle x).toList
  | text s => textChars charset s
  | array [] => ['[', ']']
  | array (v :: rest) =>
    '[' :: newLine (level + 1) ++ chars charset (level + 1) v ++
      itemChars charset (level + 1) rest ++ newLine level ++ [']']
  | object [] => ['\x7b', '\x7d']
  | object ((name, v) :: rest) =>
    '\x7b' :: newLine (level + 1) ++ textChars charset name ++ ':' :: ' ' ::
      chars charset (level + 1) v ++ memberChars charset (level + 1) rest ++ newLine level ++
      ['\x7d']

/-- The characters of the items after the first. -/
def itemChars (charset : Charset) (level : Nat) : List Json → List Char
  | [] => []
  | v :: rest =>
    ',' :: newLine level ++ chars charset level v ++ itemChars charset level rest

/-- The characters of the members after the first. -/
def memberChars (charset : Charset) (level : Nat) : List (CodePoints × Json) → List Char
  | [] => []
  | (name, v) :: rest =>
    ',' :: newLine level ++ textChars charset name ++ ':' :: ' ' :: chars charset level v ++
      memberChars charset level rest

end

/-- The document of a value. -/
def write (charset : Charset) (v : Json) : String :=
  String.ofList (chars charset 0 v)

end Json

end Calculator
