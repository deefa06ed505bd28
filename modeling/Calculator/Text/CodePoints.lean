/-!
# Code points

Text that was written with escapes may hold halves of surrogate pairs, which are no characters.
Such text is kept as code points.

## Main definitions

* `CodePoints`: text as code points
* `CodePoints.ofString`, `CodePoints.toString?`: the passage to and from strings

## Main results

* `CodePoints.toString?_ofString`: a string is recovered from its code points
-/

namespace Calculator

/-- Text as a list of code points, halves of surrogate pairs included. -/
abbrev CodePoints := List Nat

namespace CodePoints

/-- The code points of a string. -/
def ofString (s : String) : CodePoints :=
  s.toList.map Char.toNat

/-- The character at a code point, if there is one. -/
def char? (n : Nat) : Option Char :=
  if n.isValidChar then some (Char.ofNat n) else none

/-- The string with the given code points, if all of them are characters. -/
def toString? (s : CodePoints) : Option String :=
  (s.mapM char?).map String.ofList

@[simp] theorem char?_toNat (c : Char) : char? c.toNat = some c := by
  have h : c.toNat.isValidChar := c.valid
  simp [char?, h]

theorem mapM_char?_map_toNat (cs : List Char) : (cs.map Char.toNat).mapM char? = some cs := by
  induction cs with
  | nil => rfl
  | cons c cs ih => simp [ih]

@[simp] theorem toString?_ofString (s : String) : toString? (ofString s) = some s := by
  unfold toString? ofString
  rw [mapM_char?_map_toNat]
  simp

end CodePoints

end Calculator
