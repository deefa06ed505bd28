import Calculator.Number.Decimal

/-!
# Number layouts

Two ways to write a double, both with the digits of its shortest decimal: *positional*, for
expressions, and *scientific*, for data files, where very large and very small numbers take an
exponent.

## Main definitions

* `formatNumber x`: the positional text of `x`
* `RealStyle`, `realText`: the scientific text of `x`, with a choice of words for the special values
-/

namespace Calculator

namespace Decimal

/-- Digits filled up with leading zeros to a given count. -/
def padDigits (count : Nat) (ds : List Char) : List Char :=
  List.replicate (count - ds.length) '0' ++ ds

/-- Digits without the zeros at their end. -/
def trimZeros (ds : List Char) : List Char :=
  (ds.reverse.dropWhile (· == '0')).reverse

/-- A decimal without an exponent: a whole part, and the fraction after a point if there is one. -/
def positional (d : Decimal) : List Char :=
  match d.exponent with
  | .ofNat n => if d.coefficient = 0 then ['0'] else digits d.coefficient ++ List.replicate n '0'
  | .negSucc n =>
    let whole := digits (d.coefficient / Nat.pow 10 (n + 1))
    let fraction := trimZeros (padDigits (n + 1) (digits (d.coefficient % Nat.pow 10 (n + 1))))
    if fraction = [] then whole else whole ++ '.' :: fraction

/-- The exponent of a leading digit, written with a sign and at least two digits. -/
def exponentText (e : Int) : List Char :=
  'e' :: (if e < 0 then '-' else '+') :: padDigits 2 (digits e.natAbs)

/-- A decimal in the layout of data files: the leading digit counts `10 ^ e`, and from `e = -4` up
to `e = 15` the text is positional, with `.0` after a whole number; elsewhere it is the digits with
a point after the first and the exponent. -/
def scientific (d : Decimal) : List Char :=
  let e := (digits d.coefficient).length + d.exponent - 1
  if d.coefficient = 0 ∨ (-4 ≤ e ∧ e ≤ 15) then
    let text := d.positional
    if text.contains '.' then text else text ++ ['.', '0']
  else
    match trimZeros (digits d.coefficient) with
    | [] => []
    | [c] => c :: exponentText e
    | c :: cs => c :: '.' :: cs ++ exponentText e

end Decimal

/-- The sign of a double as text: a minus if the sign bit is set. -/
def signText (x : Float) : List Char :=
  if isNegative x then ['-'] else []

/-- The characters of `formatNumber`. -/
def numberChars (x : Float) : List Char :=
  if x.isNaN then ['n', 'a', 'n']
  else if x.isInf then signText x ++ ['i', 'n', 'f']
  else signText x ++ (Decimal.shortest (Pattern.ofFloat x)).positional

/-- A double as expressions show it: the shortest decimal that is read back as the same double,
without an exponent and without a point after a whole number. -/
def formatNumber (x : Float) : String :=
  String.ofList (numberChars x)

/-- The words for the values that have no digits. -/
structure RealStyle where
  /-- The word for infinity. -/
  infinity : String
  /-- The word for what is not a number. -/
  notANumber : String

/-- A double in the layout of data files. -/
def realText (style : RealStyle) (x : Float) : String :=
  if x.isNaN then style.notANumber
  else if x.isInf then String.ofList (signText x) ++ style.infinity
  else String.ofList (signText x ++ (Decimal.shortest (Pattern.ofFloat x)).scientific)

end Calculator
