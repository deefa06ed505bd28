import Calculator.Text.CodePoints
import Calculator.Text.Printable

/-!
# Quoted text

The form in which messages quote text: between quotes, with escapes for the quote, the backslash and
whatever is not printable.

## Main definitions

* `Quoted.codePoints s`: the quoted form of code points
* `quoted s`: the quoted form of a string
-/

namespace Calculator

namespace Quoted

/-- A digit of base sixteen in lower case. -/
def hexDigit (n : Nat) : Char :=
  Nat.digitChar (n % 16)

/-- The last `count` hexadecimal digits of a number. -/
def hexDigits (count n : Nat) : List Char :=
  match count with
  | 0 => []
  | count + 1 => hexDigits count (n / 16) ++ [hexDigit n]

/-- The code point of the single quote. -/
def singleQuote : Nat := 39

/-- The code point of the double quote. -/
def doubleQuote : Nat := 34

/-- The quote that encloses a text: a single one, unless the text has single quotes and no double
ones. -/
def enclosing (s : CodePoints) : Nat :=
  if s.contains singleQuote && !s.contains doubleQuote then doubleQuote else singleQuote

/-- How a code point is written between the quotes `quote`. -/
def escape (quote n : Nat) : List Char :=
  if n = quote ∨ n = 92 then ['\\', Char.ofNat n]
  else if n = 9 then ['\\', 't']
  else if n = 10 then ['\\', 'n']
  else if n = 13 then ['\\', 'r']
  else if Text.isPrintable n then [Char.ofNat n]
  else if n < 0x100 then '\\' :: 'x' :: hexDigits 2 n
  else if n < 0x10000 then '\\' :: 'u' :: hexDigits 4 n
  else '\\' :: 'U' :: hexDigits 8 n

/-- Code points in quotes. -/
def codePoints (s : CodePoints) : String :=
  let quote := enclosing s
  String.ofList (Char.ofNat quote :: s.flatMap (escape quote) ++ [Char.ofNat quote])

end Quoted

/-- A string in quotes. -/
def quoted (s : String) : String :=
  Quoted.codePoints (CodePoints.ofString s)

end Calculator
