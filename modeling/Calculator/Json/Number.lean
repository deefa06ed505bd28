import Calculator.Json.Basic
import Calculator.Number.Reading

/-!
# Numbers of JSON values

The double that a JSON value stands for where a number is asked for: numbers, truth values, and
strings that spell a number.

## Main definitions

* `ConversionError`: why a value is no number
* `Json.toFloat v`: the number that `v` stands for
-/

namespace Calculator

/-- A kind of JSON value that is never a number. -/
inductive NonNumeric where
  /-- The value `null`. -/
  | null
  /-- Arrays. -/
  | array
  /-- Objects. -/
  | object
deriving DecidableEq, Repr

/-- The word for a kind of value in messages. -/
def NonNumeric.name : NonNumeric → String
  | null => "NoneType"
  | array => "list"
  | object => "dict"

/-- Why a value is no number. -/
inductive ConversionError where
  /-- A string spells no number. -/
  | unreadable (s : CodePoints)
  /-- A whole number is beyond the range of doubles. -/
  | tooLarge
  /-- The value is of a kind that is never a number. -/
  | nonNumeric (kind : NonNumeric)
deriving DecidableEq, Repr

/-- The text of the error. -/
def ConversionError.message : ConversionError → String
  | unreadable s => "could not convert string to float: " ++ Quoted.codePoints s
  | tooLarge => "int too large to convert to float"
  | nonNumeric kind =>
    "float() argument must be a string or a real number, not '" ++ kind.name ++ "'"

namespace Json

/-- The double nearest to a whole number, unless that is an infinity. -/
def integerToFloat? (n : Int) : Option Float :=
  let pattern := Decimal.pattern ⟨n.natAbs, 0⟩
  if pattern = Pattern.infinity then none else some (Pattern.toFloat (n < 0) pattern)

/-- The number that a value stands for. -/
def toFloat : Json → Except ConversionError Float
  | integer n =>
    match integerToFloat? n with
    | some x => .ok x
    | none => .error .tooLarge
  | real x => .ok x
  | bool b => .ok (if b then 1 else 0)
  | text s =>
    match s.toString?.bind fun t => readNumber? t.toList with
    | some x => .ok x
    | none => .error (.unreadable s)
  | null => .error (.nonNumeric .null)
  | array _ => .error (.nonNumeric .array)
  | object _ => .error (.nonNumeric .object)

end Json

end Calculator
