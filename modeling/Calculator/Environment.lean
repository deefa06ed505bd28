import Calculator.Constants
import Calculator.Expr
import Calculator.Json.Number

/-!
# Environments

Values for names that are given as a JSON object, laid over constants.  A given value is converted
to a number when it is looked up, so one that is no number does no harm as long as it is not used.

## Main definitions

* `Environment`: given values over constants
* `Environment.lookup`: the value of a name, or why it has none
-/

namespace Calculator

/-- Values for names. -/
structure Environment where
  /-- The values that hold where none is given. -/
  constants : NameMap Float
  /-- The given values. -/
  given : Json

/-- Why a look-up fails. -/
inductive LookupError where
  /-- The name has no value. -/
  | unbound (e : UnboundVariable)
  /-- The given value is no number. -/
  | conversion (e : ConversionError)
deriving DecidableEq

/-- The text of the error. -/
def LookupError.message : LookupError → String
  | unbound e => e.message
  | conversion e => e.message

/-- The value of a name. -/
def Environment.lookup (env : Environment) (name : String) : Except LookupError Float :=
  match env.given.member? name with
  | some v => v.toFloat.mapError .conversion
  | none => (env.constants.lookup name).mapError .unbound

end Calculator
