import Calculator.Number.Pattern

/-!
# Decimals

A decimal is a natural number scaled by a power of ten.  It is read as the nearest double, and a
double is written as the shortest decimal that is read as that double again.

## Main definitions

* `Decimal`: a coefficient and an exponent of ten
* `Decimal.pattern d`: the pattern of the double nearest to `d`
* `Decimal.exact b`: the value of the pattern `b` without rounding
* `Decimal.shortest b`: the decimal with the fewest digits that is read as the pattern `b`
-/

namespace Calculator

/-- The number `coefficient * 10 ^ exponent`. -/
structure Decimal where
  /-- The digits, read as one natural number. -/
  coefficient : Nat
  /-- The power of ten that scales them. -/
  exponent : Int
deriving DecidableEq, Repr

namespace Decimal

/-- The pattern of the double nearest to a decimal.  The two bounds on the exponent spare the
computation of huge powers of ten: at the first the value is at least `2 ^ 1025`, at the second it
is below `2 ^ -1080`. -/
def pattern (d : Decimal) : Nat :=
  if d.coefficient = 0 then 0
  else match d.exponent with
    | .ofNat n =>
      if 1025 ≤ d.coefficient.log2 + 3 * n then Pattern.infinity
      else Pattern.nearest ((d.coefficient * Nat.pow 10 n) <<< 1074) 1
    | .negSucc n =>
      if d.coefficient.log2 + 1081 < 3 * (n + 1) then 0
      else Pattern.nearest (d.coefficient <<< 1074) (Nat.pow 10 (n + 1))

/-- The double nearest to a decimal with a sign. -/
def toFloat (negative : Bool) (d : Decimal) : Float :=
  Pattern.toFloat negative d.pattern

/-- Whether a decimal is read as the double with pattern `b`. -/
def readsAs (d : Decimal) (b : Nat) : Bool :=
  d.pattern = b

/-- The digits of a natural number in base ten, the leading one first. -/
def digits (n : Nat) : List Char :=
  Nat.toDigits 10 n

/-- The value of a pattern without rounding: a half is written as five tenths. -/
def exact (b : Nat) : Decimal :=
  if 1074 ≤ Pattern.doublings b then
    ⟨Pattern.significand b <<< (Pattern.doublings b - 1074), 0⟩
  else
    ⟨Pattern.significand b * Nat.pow 5 (1074 - Pattern.doublings b),
      -((1074 - Pattern.doublings b : Nat) : Int)⟩

/-- The decimal nearest to `whole * 10 ^ exponent` among its two neighbours on the grid without the
last `dropped` digits, if one of them is read as the pattern `b`.  When both are and lie equally
near, the one with an even last digit is taken. -/
def onGrid? (b whole : Nat) (exponent : Int) (dropped : Nat) : Option Decimal :=
  let step := Nat.pow 10 dropped
  let below : Decimal := ⟨whole / step, exponent + dropped⟩
  let above : Decimal := ⟨whole / step + 1, exponent + dropped⟩
  let remainder := 2 * (whole % step)
  match below.readsAs b, above.readsAs b with
  | true, true =>
    if remainder < step || (remainder = step && below.coefficient % 2 = 0) then some below
    else some above
  | true, false => some below
  | false, true => some above
  | false, false => none

/-- The decimal with the fewest digits that is read as the pattern `b`, and of those the nearest to
its value.  Seventeen digits tell any two doubles apart; the exact value stands in where no shorter
decimal serves. -/
def shortest (b : Nat) : Decimal :=
  if b = 0 then ⟨0, 0⟩
  else
    let value := exact b
    let length := (digits value.coefficient).length
    ((List.range 17).findSome? fun i =>
      onGrid? b value.coefficient value.exponent (length - (i + 1))).getD value

theorem readsAs_of_onGrid? {b whole : Nat} {exponent : Int} {dropped : Nat} {d : Decimal}
    (h : onGrid? b whole exponent dropped = some d) : d.readsAs b = true := by
  simp only [onGrid?] at h
  split at h
  · split at h <;> simp_all
  all_goals simp_all

end Decimal

end Calculator
