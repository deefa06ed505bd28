/-!
# Binary64 patterns

A finite double without its sign is a whole number of *units*, the unit being the least positive
double, `2 ^ -1074`.  Its *pattern* is the exponent field followed by the fraction field, read as
one natural number.  Patterns count the doubles below a double, so their order is the order of the
values and the neighbours of a double are the neighbours of its pattern.

## Main definitions

* `Pattern.units b`: the value of the pattern `b` in units
* `Pattern.nearest num den`: the pattern nearest to `num / den` units
* `Pattern.toFloat`, `Pattern.ofFloat`, `isNegative`: the passage to and from `Float`
-/

namespace Calculator

namespace Pattern

/-- The number of fractions that go with an exponent field, `2 ^ 52`. -/
def fractions : Nat := 0x10000000000000

/-- The value of the sign bit, `2 ^ 63`. -/
def signBit : Nat := 0x8000000000000000

/-- The pattern of infinity; the patterns below it are those of the finite doubles. -/
def infinity : Nat := 0x7ff * fractions

/-- The fraction of a pattern, with a leading bit if the exponent field is not zero. -/
def significand (b : Nat) : Nat :=
  if b < fractions then b else fractions + b % fractions

/-- How often the fraction is doubled: once for each step of the exponent field past the first. -/
def doublings (b : Nat) : Nat :=
  b / fractions - 1

/-- The value of a pattern in units. -/
def units (b : Nat) : Nat :=
  significand b <<< doublings b

/-- The pattern nearest to `num / den` units, the even one of two that are equally near.  The
quotient is cut to its 53 leading bits, which gives the pattern below it, and the remainder decides
whether the pattern above is nearer. -/
def nearest (num den : Nat) : Nat :=
  let quotient := num / den
  let shift := quotient.log2 - 52
  let leading := quotient >>> shift
  let below := shift * fractions + leading
  let step := den <<< shift
  let remainder := 2 * (num - leading * step)
  let rounded :=
    if step < remainder || (step = remainder && below % 2 = 1) then below + 1 else below
  min rounded infinity

/-- The double with a sign and a pattern. -/
def toFloat (negative : Bool) (b : Nat) : Float :=
  Float.ofBits (UInt64.ofNat (if negative then signBit + b else b))

/-- The pattern of a double, its sign left out. -/
def ofFloat (x : Float) : Nat :=
  x.toBits.toNat % signBit

end Pattern

/-- Whether the sign bit of a double is set. -/
def isNegative (x : Float) : Bool :=
  Pattern.signBit ≤ x.toBits.toNat

end Calculator
