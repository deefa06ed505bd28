import Calculator.Cursor
import Calculator.Diagnostic
import Calculator.Number.Numeral
import Calculator.Text.Numeric
import Calculator.Text.Space

/-!
# Lexemes

The smallest parts of an input: numbers, names, operators and brackets.  White space stands between
them and is dropped.  Every lexeme is as long as it can be, and its first character tells its kind.

## Main definitions

* `CharKind`, `classify`: what a character begins
* `scanNumber`, `scanIdentifier`: the number and the name at a cursor
* `isIdentifier`: the names that an input can refer to
* `Lexeme`, `lexemes`: the parts of an input with the offsets at which they end
-/

namespace Calculator

open Text

/-- What a character begins. -/
inductive CharKind where
  /-- White space, which is skipped. -/
  | whitespace
  /-- An opening bracket. -/
  | opening
  /-- A closing bracket. -/
  | closing
  /-- A numeral. -/
  | number
  /-- A name. -/
  | identifier
  /-- An operator. -/
  | operator (op : Operator)
  /-- Nothing that an input may hold. -/
  | invalid
deriving DecidableEq, Repr

/-- What a character begins. -/
def classify (c : Char) : CharKind :=
  if isSpace c then .whitespace
  else if c = '(' then .opening
  else if c = ')' then .closing
  else if c.isDigit then .number
  else if isLetter c then .identifier
  else match Operator.ofSymbol? c with
    | some op => .operator op
    | none => .invalid

/-- Whether a text is a name: a letter, and after it letters and numeric characters. -/
def isIdentifier (name : String) : Bool :=
  match name.toList with
  | [] => false
  | c :: cs => isLetter c && (c :: cs).all isAlphanumeric

/-- The number at a cursor, and the cursor after it.  A second point is read before it is
reported; a numeral without a digit is reported where it begins. -/
def scanNumber (c : Cursor) : Except Fault Float × Cursor :=
  let raw := (Numeral.split c.rest).1
  let after := c.skip raw.length
  if after.peek = some '.' then
    (.error ⟨.secondPoint, after.advance.offset⟩, after.advance)
  else
    match Numeral.value? raw with
    | some x => (.ok x, after)
    | none => (.error ⟨.unreadableNumber (String.ofList raw), c.offset⟩, after)

/-- The longest run of letters and numeric characters at a cursor, and the cursor after it. -/
def scanIdentifier (c : Cursor) : String × Cursor :=
  let name := c.rest.takeWhile isAlphanumeric
  (String.ofList name, c.skip name.length)

/-- A part of an input. -/
inductive Lexeme where
  /-- A number. -/
  | number (x : Float)
  /-- A name. -/
  | identifier (name : String)
  /-- An operator. -/
  | operator (op : Operator)
  /-- An opening bracket. -/
  | opening
  /-- A closing bracket. -/
  | closing
  /-- Characters that are no lexeme. -/
  | fault (f : Fault)
deriving DecidableEq

/-- A lexeme, and the offset at which it ends. -/
structure Located where
  /-- The lexeme. -/
  lexeme : Lexeme
  /-- The offset after its last character. -/
  offset : Int
deriving DecidableEq

/-- What the characters `c :: cs` begin with, and the offset after it; white space gives no
lexeme. -/
def leadingLexeme (offset : Int) (c : Char) (cs : List Char) : Option Lexeme × Int :=
  match classify c with
  | .whitespace => (none, offset + 1)
  | .opening => (some .opening, offset + 1)
  | .closing => (some .closing, offset + 1)
  | .operator op => (some (.operator op), offset + 1)
  | .invalid => (some (.fault ⟨.invalidToken c, offset + 1⟩), offset + 1)
  | .identifier =>
    let (name, after) := scanIdentifier ⟨offset, c :: cs⟩
    (some (.identifier name), after.offset)
  | .number =>
    match scanNumber ⟨offset, c :: cs⟩ with
    | (.ok x, after) => (some (.number x), after.offset)
    | (.error f, after) => (some (.fault f), after.offset)

/-- The lexemes of the characters from `offset` on. -/
def lexemes (offset : Int) : List Char → List Located
  | [] => []
  | c :: cs =>
    let (lexeme, after) := leadingLexeme offset c cs
    let rest := lexemes after (cs.drop ((after - offset).toNat - 1))
    match lexeme with
    | none => rest
    | some l => ⟨l, after⟩ :: rest
termination_by cs => cs.length
decreasing_by
  simp only [List.length_drop, List.length_cons]
  omega

end Calculator
