import Calculator.Json.Lexeme

/-!
# Reading JSON

A document is read lexeme by lexeme with a stack of the arrays and objects that are still open.  The
words `NaN`, `Infinity` and `-Infinity` are numbers; of members with one name the last counts.

## Main definitions

* `Json.ReadError`, `Json.ReadError.message`: why a document is not read
* `Json.read cs`: the value of a document
-/

namespace Calculator

namespace Json

/-- Why a document is not read. -/
inductive ReadError where
  /-- The document is malformed at a place in its text. -/
  | malformed (problem : Problem) (document : List Char) (position : Nat)
  /-- A whole number has too many digits. -/
  | oversized (digits : Nat)

namespace ReadError

/-- The line of a place, counted from one. -/
def line (document : List Char) (position : Nat) : Nat :=
  (document.take position).count '\n' + 1

/-- The column of a place in its line, counted from one. -/
def column (document : List Char) (position : Nat) : Nat :=
  ((document.take position).reverse.takeWhile (· != '\n')).length + 1

/-- The text of the error. -/
def message : ReadError → String
  | malformed problem document position =>
    problem.message ++ ": line " ++ toString (line document position) ++ " column " ++
      toString (column document position) ++ " (char " ++ toString position ++ ")"
  | oversized digits =>
    "Exceeds the limit (" ++ toString maxDigits ++
      " digits) for integer string conversion: value has " ++ toString digits ++
      " digits; use sys.set_int_max_str_digits() to increase the limit"

end ReadError

/-- An array or object that is still open: what it holds so far, the latest first. -/
inductive Open where
  /-- An array. -/
  | array (items : List Json)
  /-- An object, and the name of the member that is being read. -/
  | object (members : List (CodePoints × Json)) (name : CodePoints)

/-- What has to come next. -/
inductive Expecting where
  /-- A value; the end of the array instead, if it was just opened. -/
  | value (closable : Bool)
  /-- The name of a member; the end of the object instead, if it was just opened. -/
  | name (members : List (CodePoints × Json)) (closable : Bool)
  /-- The colon after a name. -/
  | colon (members : List (CodePoints × Json)) (name : CodePoints)
  /-- What follows a value. -/
  | afterValue (v : Json)

/-- Reads lexemes, given what has to come next and the open arrays and objects, the innermost
first.  `ending` is the place at which the document ends; a failure tells the problem and its
place, or the digits of a number that is too long. -/
def readLexemes (ending : Nat) :
    Expecting → List Open → List (Lexeme × Nat) → Except (Problem × Nat ⊕ Nat) Json
  | .value _, _, [] => .error (.inl (.expectingValue, ending))
  | .name _ _, _, [] => .error (.inl (.expectingName, ending))
  | .colon _ _, _, [] => .error (.inl (.expectingColon, ending))
  | .afterValue v, [], [] => .ok v
  | .afterValue _, _ :: _, [] => .error (.inl (.expectingComma, ending))
  | .value closable, around, (lexeme, position) :: rest =>
    match lexeme, around with
    | .scalar v, _ => readLexemes ending (.afterValue v) around rest
    | .text s, _ => readLexemes ending (.afterValue (.text s)) around rest
    | .badText problem place, _ => .error (.inl (problem, place))
    | .oversized digits, _ => .error (.inr digits)
    | .openArray, _ => readLexemes ending (.value true) (.array [] :: around) rest
    | .openObject, _ => readLexemes ending (.name [] true) around rest
    | .closeArray, .array _ :: outer =>
      if closable then readLexemes ending (.afterValue (.array [])) outer rest
      else .error (.inl (.expectingValue, position))
    | _, _ => .error (.inl (.expectingValue, position))
  | .name members closable, around, (lexeme, position) :: rest =>
    match lexeme with
    | .text s => readLexemes ending (.colon members s) around rest
    | .badText problem place => .error (.inl (problem, place))
    | .closeObject =>
      if closable then readLexemes ending (.afterValue (.object [])) around rest
      else .error (.inl (.expectingName, position))
    | _ => .error (.inl (.expectingName, position))
  | .colon members name, around, (lexeme, position) :: rest =>
    match lexeme with
    | .colon => readLexemes ending (.value false) (.object members name :: around) rest
    | _ => .error (.inl (.expectingColon, position))
  | .afterValue _, [], (_, position) :: _ => .error (.inl (.extraData, position))
  | .afterValue v, .array items :: around, (lexeme, position) :: rest =>
    match lexeme with
    | .comma => readLexemes ending (.value false) (.array (v :: items) :: around) rest
    | .closeArray => readLexemes ending (.afterValue (.array (v :: items).reverse)) around rest
    | _ => .error (.inl (.expectingComma, position))
  | .afterValue v, .object members name :: around, (lexeme, position) :: rest =>
    match lexeme with
    | .comma => readLexemes ending (.name ((name, v) :: members) false) around rest
    | .closeObject =>
      readLexemes ending (.afterValue (.object (Json.members ((name, v) :: members).reverse)))
        around rest
    | _ => .error (.inl (.expectingComma, position))

/-- The value of a document. -/
def read (document : List Char) : Except ReadError Json :=
  if document.head? = some '\uFEFF' then .error (.malformed .byteOrderMark document 0)
  else match readLexemes document.length (.value false) [] (lexemes 0 document) with
    | .ok v => .ok v
    | .error (.inl (problem, position)) => .error (.malformed problem document position)
    | .error (.inr digits) => .error (.oversized digits)

end Json

end Calculator
