import Calculator.NameMap
import Calculator.Number.Pattern

/-!
# Builtin constants

The names that have a value from the start.

## Main definitions

* `Constants.builtins`: the constants and their values
-/

namespace Calculator.Constants

/-- The circumference of a circle over its diameter. -/
def pi : Float := Float.ofBits 0x400921fb54442d18

/-- The circumference of a circle over its radius. -/
def tau : Float := Float.ofBits 0x401921fb54442d18

/-- The base of natural logarithms. -/
def e : Float := Float.ofBits 0x4005bf0a8b145769

/-- The golden ratio. -/
def phi : Float := Float.ofBits 0x3ff9e3779b97f4a8

/-- The constants under their Latin and their Greek names. -/
def builtins : NameMap Float :=
  .ofList [("pi", pi), ("π", pi), ("tau", tau), ("τ", tau), ("e", e), ("phi", phi), ("φ", phi)]

end Calculator.Constants
