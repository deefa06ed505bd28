import Calculator.Json.Basic
import Calculator.Number.Numeral

/-!
# JSON lexemes

The smallest parts of a JSON document, with the places at which they begin.

## Main definitions

* `Json.Lexeme`: punctuation, scalars, strings, and what is none of these
* `Json.lexemes`: the lexemes of a document
* `Json.Problem`: what can be wrong with a document
-/

namespace Calculator

namespace Json

/-- What is wrong with a document. -/
inductive Problem where
  /-- No value stands where one is needed. -/
  | expectingValue
  /-- No string stands where the name of a member is needed. -/
  | expectingName
  /-- No colon follows the name of a member. -/
  | expectingColon
  /-- No comma follows a value in an array or object that goes on. -/
  | expectingComma
  /-- Something follows the value of the document. -/
  | extraData
  /-- A string holds a control character. -/
  | controlCharacter
  /-- A string does not end. -/
  | unterminated
  /-- A backslash is followed by no escape. -/
  | invalidEscape
  /-- An escape does not have four hexadecimal digits. -/
  | invalidUnicodeEscape
  /-- The document begins with a byte order mark. -/
  | byteOrderMark
deriving DecidableEq, Repr

/-- The wording of a problem. -/
def Problem.message : Problem → String
  | expectingValue => "Expecting value"
  | expectingName => "Expecting property name enclosed in double quotes"
  | expectingColon => "Expecting ':' delimiter"
  | expectingComma => "Expecting ',' delimiter"
  | extraData => "Extra data"
  | controlCharacter => "Invalid control character at"
  | unterminated => "Unterminated string starting at"
  | invalidEscape => "Invalid \\escape"
  | invalidUnicodeEscape => "Invalid \\uXXXX escape"
  | byteOrderMark => "Unexpected UTF-8 BOM (decode using utf-8-sig)"

/-- A part of a document. -/
inductive Lexeme where
  /-- The beginning of an object. -/
  | openObject
  /-- The end of an object. -/
  | closeObject
  /-- The beginning of an array. -/
  | openArray
  /-- The end of an array. -/
  | closeArray
  /-- A colon. -/
  | colon
  /-- A comma. -/
  | comma
  /-- A number or one of the words for single values. -/
  | scalar (v : Json)
  /-- A whole number with more digits than are read. -/
  | oversized (digits : Nat)
  /-- A string. -/
  | text (s : CodePoints)
  /-- A malformed string, with the place of the problem. -/
  | badText (problem : Problem) (position : Nat)
  /-- A character that begins no lexeme. -/
  | junk

/-- The white space of documents. -/
def isBlank (c : Char) : Bool :=
  c = ' ' || c = '\t' || c = '\n' || c = '\r'

/-- The value of a hexadecimal digit. -/
def hexValue? (c : Char) : Option Nat :=
  if c.isDigit then some (c.toNat - '0'.toNat)
  else if 'a' ≤ c ∧ c ≤ 'f' then some (c.toNat - 'a'.toNat + 10)
  else if 'A' ≤ c ∧ c ≤ 'F' then some (c.toNat - 'A'.toNat + 10)
  else none

/-- The value of four hexadecimal digits at the beginning of a text that goes on after them. -/
def hexWord? : List Char → Option Nat
  | a :: b :: c :: d :: _ :: _ => do
    let a ← hexValue? a
    let b ← hexValue? b
    let c ← hexValue? c
    let d ← hexValue? d
    return ((a * 16 + b) * 16 + c) * 16 + d
  | _ => none

/-- The second half of a surrogate pair, if the text at `cs` is an escape with room for one.  A text
too short for it is no second half; digits that are not hexadecimal are an error. -/
def lowHalf? (cs : List Char) : Except Unit (Option Nat) :=
  match cs with
  | '\\' :: 'u' :: digits =>
    if digits.length < 5 then .ok none
    else match hexWord? digits with
      | none => .error ()
      | some n => .ok (if 0xdc00 ≤ n ∧ n < 0xe000 then some n else none)
  | _ => .ok none

/-- The code point of the letter of a short escape. -/
def shortEscape? (c : Char) : Option Nat :=
  if c = '"' || c = '\\' || c = '/' then some c.toNat
  else if c = 'b' then some 8
  else if c = 'f' then some 12
  else if c = 'n' then some 10
  else if c = 'r' then some 13
  else if c = 't' then some 9
  else none

/-- The code point that an escape stands for and the number of characters after the backslash that
write it; or the problem and its distance from the backslash.  `cs` is not empty. -/
def escape (cs : List Char) : Except (Problem × Nat) (Nat × Nat) :=
  match cs with
  | 'u' :: digits =>
    match hexWord? digits with
    | none => .error (.invalidUnicodeEscape, 1)
    | some n =>
      if 0xd800 ≤ n ∧ n < 0xdc00 then
        match lowHalf? (digits.drop 4) with
        | .error () => .error (.invalidUnicodeEscape, 7)
        | .ok none => .ok (n, 5)
        | .ok (some low) => .ok (0x10000 + (n - 0xd800) * 0x400 + (low - 0xdc00), 11)
      else .ok (n, 5)
  | c :: _ =>
    match shortEscape? c with
    | some n => .ok (n, 1)
    | none => .error (.invalidEscape, 0)
  | [] => .error (.invalidEscape, 0)

/-- The string whose characters after the opening quote are `cs`, and the place after its closing
quote.  `opening` is the place of the opening quote, `position` that of the next character, and
`read` holds the code points so far, the latest first. -/
def readText (opening : Nat) (position : Nat) (read : List Nat) : List Char → Lexeme × Nat
  | [] => (.badText .unterminated opening, position)
  | c :: cs =>
    if c = '"' then (.text read.reverse, position + 1)
    else if c = '\\' then
      if cs = [] then (.badText .unterminated opening, position)
      else match escape cs with
        | .error (problem, distance) => (.badText problem (position + distance), position)
        | .ok (n, length) => readText opening (position + 1 + length) (n :: read) (cs.drop length)
    else if c.toNat < 0x20 then (.badText .controlCharacter position, position)
    else readText opening (position + 1) (c.toNat :: read) cs
termination_by cs => cs.length
decreasing_by
  · simp only [List.length_drop, List.length_cons]; omega
  · simp

/-- The most digits that a whole number may have. -/
def maxDigits : Nat := 4300

/-- The fraction after a whole part: a point and at least one digit. -/
def fractionDigits (cs : List Char) : List Char :=
  match cs with
  | '.' :: rest => rest.takeWhile Char.isDigit
  | _ => []

/-- The digits before the point: a lone zero, or digits of which the first is not zero. -/
def wholeDigits (cs : List Char) : List Char :=
  match cs with
  | '0' :: _ => ['0']
  | _ => cs.takeWhile Char.isDigit

/-- The number at the beginning of a text, and the number of characters that write it. -/
def number? (cs : List Char) : Option (Lexeme × Nat) :=
  let negative := cs.head? = some '-'
  let body := if negative then cs.drop 1 else cs
  let whole := wholeDigits body
  if whole = [] then none
  else
    let signLength := if negative then 1 else 0
    let rest := body.drop whole.length
    let fraction := fractionDigits rest
    let fractionLength := if fraction = [] then 0 else fraction.length + 1
    let exponent := Numeral.exponent? (rest.drop fractionLength)
    let length := signLength + whole.length + fractionLength + (exponent.map (·.2)).getD 0
    if fraction = [] && exponent.isNone then
      if maxDigits < whole.length then some (.oversized whole.length, length)
      else
        let value : Int := Numeral.digitsValue whole
        some (.scalar (.integer (if negative then -value else value)), length)
    else
      let d : Decimal :=
        ⟨Numeral.digitsValue (whole ++ fraction),
          (exponent.map (·.1)).getD 0 - (fraction.length : Int)⟩
      some (.scalar (.real (d.toFloat negative)), length)

/-- The words for single values. -/
def words : List (String × Json) :=
  [("null", .null), ("true", .bool true), ("false", .bool false),
   ("NaN", .real (Float.ofBits 0x7ff8000000000000)),
   ("Infinity", .real (Pattern.toFloat false Pattern.infinity)),
   ("-Infinity", .real (Pattern.toFloat true Pattern.infinity))]

/-- The word at the beginning of a text, and its length. -/
def word? (cs : List Char) : Option (Lexeme × Nat) :=
  (words.find? fun word => word.1.toList.isPrefixOf cs).map fun word =>
    (.scalar word.2, word.1.length)

/-- What the characters `c :: cs` at a place begin with, and the place after it; white space gives
no lexeme. -/
def leadingLexeme (position : Nat) (c : Char) (cs : List Char) : Option Lexeme × Nat :=
  if isBlank c then (none, position + 1)
  else match c with
    | '\x7b' => (some .openObject, position + 1)
    | '\x7d' => (some .closeObject, position + 1)
    | '[' => (some .openArray, position + 1)
    | ']' => (some .closeArray, position + 1)
    | ':' => (some .colon, position + 1)
    | ',' => (some .comma, position + 1)
    | '"' =>
      let (lexeme, after) := readText position (position + 1) [] cs
      (some lexeme, after)
    | _ =>
      match (word? (c :: cs)).or (number? (c :: cs)) with
      | some (lexeme, length) => (some lexeme, position + length)
      | none => (some .junk, position + 1)

/-- The lexemes of the characters from a place on, each with the place at which it begins. -/
def lexemes (position : Nat) : List Char → List (Lexeme × Nat)
  | [] => []
  | c :: cs =>
    let (lexeme, after) := leadingLexeme position c cs
    let rest := lexemes after (cs.drop (after - position - 1))
    match lexeme with
    | none => rest
    | some l => (l, position) :: rest
termination_by cs => cs.length
decreasing_by
  simp only [List.length_drop, List.length_cons]
  omega

end Json

end Calculator
