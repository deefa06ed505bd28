/-!
# Cursors

A text is read by a head with two counts: the offset that diagnostics report, which goes on whenever
a character is asked for, and the index of the next character, which goes on only if there was one.
An index that is negative counts from the end of the text.  A head that starts there comes to the
index 0 after the last character and reads on from the beginning; one that starts before the first
character finds nothing to read.

What a head reads is a list of characters.  A cursor is an offset with the characters ahead.

## Main definitions

* `Head`, `Head.peek`, `Head.advance`: a text under a reading head
* `Head.readAll`: the characters that a head answers with, up to the end of the text
* `Cursor`: an offset and the characters ahead
* `Cursor.place? text start`: the cursor at `start`, if that does not lie before the text
* `Cursor.walk`: what a sequence of moves sees
-/

namespace Calculator

/-- An index that stands for no character of a text. -/
inductive IndexError where
  /-- The index lies beyond one of the ends. -/
  | outOfRange
deriving DecidableEq, Repr

/-- A text under a reading head. -/
structure Head where
  /-- The characters of the text. -/
  chars : List Char
  /-- The offset that diagnostics report. -/
  offset : Int
  /-- The index of the next character, from the end of the text if it is negative. -/
  index : Int
deriving DecidableEq, Repr

namespace Head

/-- The head at a place of a text. -/
def ofStart (text : String) (start : Int) : Head :=
  ⟨text.toList, start, start⟩

/-- The character at an index, which counts from the end if it is negative. -/
def charAt (chars : List Char) (index : Int) : Except IndexError Char :=
  let place := if index < 0 then index + chars.length else index
  if place < 0 then .error .outOfRange
  else (chars[place.toNat]?).elim (.error .outOfRange) .ok

/-- The next character, or none at the end of the text. -/
def peek (h : Head) : Except IndexError (Option Char) :=
  if h.index < h.chars.length then (charAt h.chars h.index).map some else .ok none

/-- The head after a character was asked for.  The offset goes on whether or not there is one. -/
def advance (h : Head) : Head :=
  { h with
    offset := h.offset + 1
    index := match h.peek with
      | .ok (some _) => h.index + 1
      | _ => h.index }

/-- A character that is taken is no longer ahead. -/
theorem length_sub_index_advance_lt {h : Head} {c : Char} (hpeek : h.peek = .ok (some c)) :
    (h.advance.chars.length - h.advance.index).toNat < (h.chars.length - h.index).toNat := by
  have hindex : h.advance.index = h.index + 1 := by
    simp only [advance, hpeek]
  have hlt : h.index < h.chars.length := by
    rw [peek] at hpeek
    split at hpeek
    · assumption
    · cases hpeek
  have hchars : h.advance.chars = h.chars := rfl
  rw [hindex, hchars]
  omega

/-- The characters that a head answers with, one after the other, up to the end of the text. -/
def readAll (h : Head) : Except IndexError (List Char) :=
  match _ : h.peek with
  | .error e => .error e
  | .ok none => .ok []
  | .ok (some c) => h.advance.readAll.map (c :: ·)
termination_by (h.chars.length - h.index).toNat
decreasing_by exact length_sub_index_advance_lt ‹_›

end Head

/-- A place from which a text is read. -/
structure Cursor where
  /-- The offset that diagnostics report for this place. -/
  offset : Int
  /-- The characters ahead. -/
  rest : List Char
deriving DecidableEq, Repr

namespace Cursor

/-- The cursor at the offset `start` of a text. -/
def ofStart (text : String) (start : Nat) : Cursor :=
  ⟨start, text.toList.drop start⟩

/-- The cursor with what a head at `start` reads.  There is none if `start` lies before the
beginning of the text. -/
def place? (text : String) (start : Int) : Option Cursor :=
  match (Head.ofStart text start).readAll with
  | .ok rest => some ⟨start, rest⟩
  | .error _ => none

/-- The next character. -/
def peek (c : Cursor) : Option Char :=
  c.rest.head?

/-- The cursor past the next character.  At the end of the text the offset goes on alone. -/
def advance (c : Cursor) : Cursor :=
  ⟨c.offset + 1, c.rest.drop 1⟩

/-- The cursor past the next `n` characters. -/
def skip (c : Cursor) (n : Nat) : Cursor :=
  ⟨c.offset + n, c.rest.drop n⟩

/-- The cursor moved on to an offset. -/
def skipTo (c : Cursor) (offset : Int) : Cursor :=
  ⟨offset, c.rest.drop (offset - c.offset).toNat⟩

/-- What one can do at a place of a text. -/
inductive Move where
  /-- Look at the next character. -/
  | peek
  /-- Take the next character. -/
  | advance
  /-- Ask for the offset. -/
  | here
deriving DecidableEq, Repr

/-- What a move sees. -/
inductive Sight where
  /-- A character, or the end of the text. -/
  | character (c : Option Char)
  /-- An offset. -/
  | offset (n : Int)
  /-- No character, since the place lies before the beginning of the text. -/
  | outOfRange
deriving DecidableEq, Repr

/-- What is seen by asking a head for the next character. -/
def Sight.ofPeek : Except IndexError (Option Char) → Sight
  | .ok c => .character c
  | .error _ => .outOfRange

/-- What each of a sequence of moves of a head sees, with the offset after it. -/
def walkFrom (h : Head) : List Move → List (Sight × Int)
  | [] => []
  | .peek :: moves => (.ofPeek h.peek, h.offset) :: walkFrom h moves
  | .advance :: moves => (.ofPeek h.peek, h.advance.offset) :: walkFrom h.advance moves
  | .here :: moves => (.offset h.offset, h.offset) :: walkFrom h moves

/-- What each of a sequence of moves from a place of a text sees, with the offset after it. -/
def walk (text : String) (start : Int) (moves : List Move) : List (Sight × Int) :=
  walkFrom (Head.ofStart text start) moves

end Cursor

end Calculator
