import Calculator.Number.Decimal

/-!
# Numerals

The numerals of expressions are runs of digits with at most one point.

## Main definitions

* `Numeral.split cs`: the longest numeral at the beginning of `cs`, and what follows it
* `Numeral.value? raw`: the double nearest to a numeral, if it has a digit
* `Numeral.exponent? cs`: the exponent that may follow a numeral in data

## Main results

* `Numeral.split_append`: the two parts make up the text
-/

namespace Calculator.Numeral

/-- The value of a run of digits. -/
def digitsValue (ds : List Char) : Nat :=
  ds.foldl (fun value d => 10 * value + (d.toNat - '0'.toNat)) 0

/-- The longest run of digits with at most one point at the beginning of a text, and the rest of
the text. -/
def split (cs : List Char) : List Char × List Char :=
  let whole := cs.takeWhile Char.isDigit
  match cs.dropWhile Char.isDigit with
  | '.' :: rest => (whole ++ '.' :: rest.takeWhile Char.isDigit, rest.dropWhile Char.isDigit)
  | rest => (whole, rest)

theorem split_append (cs : List Char) : (split cs).1 ++ (split cs).2 = cs := by
  unfold split
  have h : cs.takeWhile Char.isDigit ++ cs.dropWhile Char.isDigit = cs :=
    List.takeWhile_append_dropWhile
  split
  · rename_i rest hrest
    rw [hrest] at h
    have hr : rest.takeWhile Char.isDigit ++ rest.dropWhile Char.isDigit = rest :=
      List.takeWhile_append_dropWhile
    simp only [List.append_assoc, List.cons_append, hr, h]
  · exact h

/-- The decimal that a numeral stands for: its digits scaled by the number of those after the
point. -/
def decimal (raw : List Char) : Decimal :=
  let fraction := (raw.dropWhile (· != '.')).drop 1
  ⟨digitsValue (raw.takeWhile (· != '.') ++ fraction), -(fraction.length : Int)⟩

/-- The double nearest to a numeral; a lone point and the empty text are no numerals. -/
def value? (raw : List Char) : Option Float :=
  if raw.any Char.isDigit then some ((decimal raw).toFloat false) else none

/-- The exponent at the beginning of a text, and the number of characters that write it; there is
none without a digit. -/
def exponent? (cs : List Char) : Option (Int × Nat) :=
  match cs with
  | c :: rest =>
    if c = 'e' || c = 'E' then
      let signed := rest.head? = some '-' || rest.head? = some '+'
      let digits := (if signed then rest.drop 1 else rest).takeWhile Char.isDigit
      if digits = [] then none
      else
        let value : Int := digitsValue digits
        some (if rest.head? = some '-' then -value else value,
          digits.length + if signed then 2 else 1)
    else none
  | [] => none

end Calculator.Numeral
