import Calculator.Number.Numeral
import Calculator.Text.Numeric
import Calculator.Text.Space

/-!
# Reading numbers

The numbers that a user may give for a variable: decimals with a sign and an exponent, in the digits
of any script, with single underscores between digits, and words for infinity and what is not a
number.

## Main definitions

* `readNumber? cs`: the number that a text stands for
-/

namespace Calculator

open Text

namespace Reading

/-- A character with digits of all scripts made digits of ASCII, and white space beyond ASCII made a
space. -/
def plain (c : Char) : Char :=
  match decimalDigit? c with
  | some d => Nat.digitChar d
  | none => if 127 ≤ c.toNat && isSpace c then ' ' else c

/-- The white space that may surround a number. -/
def isMargin (c : Char) : Bool :=
  c = ' ' || (9 ≤ c.toNat && c.toNat ≤ 13)

/-- A text without its underscores, if each stands between two digits; `afterDigit` tells whether a
digit precedes the text. -/
def dropUnderscores (afterDigit : Bool) : List Char → Option (List Char)
  | [] => some []
  | c :: cs =>
    if c = '_' then
      if afterDigit && (cs.head?.map Char.isDigit).getD false then dropUnderscores false cs
      else none
    else (dropUnderscores c.isDigit cs).map (c :: ·)

/-- The magnitude that a text without a sign stands for: a word, or a numeral with an exponent. -/
def magnitude? (negative : Bool) (cs : List Char) : Option Float :=
  let word := String.ofList (cs.map Char.toLower)
  if word = "inf" || word = "infinity" then some (Pattern.toFloat negative Pattern.infinity)
  else if word = "nan" then some (Float.ofBits 0x7ff8000000000000)
  else do
    let cs ← dropUnderscores false cs
    let (raw, rest) := Numeral.split cs
    if !raw.any Char.isDigit then none
    else
      let d := Numeral.decimal raw
      if rest = [] then some (d.toFloat negative)
      else match Numeral.exponent? rest with
        | some (e, length) =>
          if length = rest.length then
            some (Decimal.toFloat negative ⟨d.coefficient, d.exponent + e⟩)
          else none
        | none => none

end Reading

/-- The number that a text stands for. -/
def readNumber? (cs : List Char) : Option Float :=
  let cs := dropEnd Reading.isMargin ((cs.map Reading.plain).dropWhile Reading.isMargin)
  match cs with
  | '-' :: rest => Reading.magnitude? true rest
  | '+' :: rest => Reading.magnitude? false rest
  | _ => Reading.magnitude? false cs

end Calculator
