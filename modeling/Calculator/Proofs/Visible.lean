import Calculator.Proofs.Extent
import Calculator.Proofs.Shift

/-!
# Reading from any place of a text

A text is parsed by a loop that asks a reading head for one character after the other.  From a place
that counts from the end, the head answers with the end of the text and then with the whole text, so
that this is what is parsed; the offsets of diagnostics are counted on from the place.  Before the
beginning of the text the first look at a character fails.

## Main definitions

* `Expr.visible text start`: what is read of a text from a place on

## Main results

* `Expr.rest_ofStart`: what is ahead of a head at a place
* `Expr.parseFrom?_natCast`: a start that counts from the beginning
* `Expr.parseFrom?_visible`: the expression from any start, before the beginning too
-/

namespace Calculator

namespace Expr

variable {text : String} {start : Int}

/-- What is read of a text from a place on.  A place that counts from the end is followed by the end
of the text and then by the whole text again. -/
def visible (text : String) (start : Int) : String :=
  if start < 0 then String.ofList (text.toList.drop (text.length + start).toNat ++ text.toList)
  else String.ofList (text.toList.drop start.toNat)

theorem rest_ofStart (text : String) (start : Int) :
    (Head.ofStart text start).rest = (visible text start).toList := by
  rw [visible, Head.rest, Head.ofStart, String.length_toList]
  split <;> rw [String.toList_ofList]

theorem inRange_ofStart_iff : (Head.ofStart text start).InRange ↔ -text.length ≤ start := by
  rw [Head.InRange, Head.ofStart, String.length_toList]

theorem place?_eq_none (h : start < -text.length) : Cursor.place? text start = none := by
  have hrange : ¬ (Head.ofStart text start).InRange :=
    inRange_ofStart_iff.not.mpr (Int.not_le.mpr h)
  rw [Cursor.place?, Head.readAll_eq_error hrange]

theorem place?_eq_some (h : -text.length ≤ start) :
    Cursor.place? text start = some ⟨start, (visible text start).toList⟩ := by
  rw [Cursor.place?, Head.readAll_eq_ok (inRange_ofStart_iff.mpr h), rest_ofStart]

/-- The loop that parses a text from a place in it comes to what is read at the cursor there. -/
theorem exists_parsesScope_iff (config : ParserConfig) (h : -text.length ≤ start) :
    ∃ result t, (∀ s u, Tape.ParsesScope config none (.ofStart text start []) s u ↔
        s = result ∧ u = t) ∧
      parseFrom? config text start = some (result.mapError (·.inText text)) := by
  have hrange : (Tape.ofStart text start []).InRange := inRange_ofStart_iff.mpr h
  obtain ⟨out, t, hreads⟩ := Tape.exists_readsScope hrange config none []
  refine ⟨_, t, fun s u => hreads.parsesScope_iff, ?_⟩
  have hcursor : (Tape.ofStart text start []).cursor = ⟨start, (visible text start).toList⟩ := by
    rw [Tape.cursor, ← rest_ofStart]
    rfl
  rw [parseFrom?, place?_eq_some h, Option.map_some, parseCursor, ← hcursor, hreads.parse_eq]

/-- From the beginning, the characters are those behind the start. -/
theorem parseFrom?_natCast (config : ParserConfig) (text : String) (start : Nat) :
    parseFrom? config text start = some (parseAt config text start) := by
  have hstart : -(text.length : Int) ≤ start := by omega
  have hcursor : Cursor.ofStart text start = ⟨start, (visible text start).toList⟩ := by
    rw [Cursor.ofStart, ← rest_ofStart, Head.rest_ofStart]
  rw [parseFrom?, place?_eq_some hstart, Option.map_some, parseAt, hcursor]

/-- **Reading from a place in a text** is reading what is visible from there, with the offsets of
diagnostics counted on from the place.  Whenever it is asked, the head answers with the next of the
visible characters and then that there are none; the loop that asks it comes to one outcome, and
that is the one of the visible text with the offsets moved.  Before the beginning of the text the
head answers with an error, and there is no outcome. -/
theorem parseFrom?_visible (config : ParserConfig) (text : String) (start : Int) :
    (start < -text.length →
      (∀ n, (Head.advance^[n] (.ofStart text start)).peek = .error .outOfRange) ∧
      (∀ s u, ¬ Tape.ParsesScope config none (.ofStart text start []) s u) ∧
      parseFrom? config text start = none) ∧
    (-text.length ≤ start →
      (∀ n : Nat, (Head.advance^[n] (.ofStart text start)).peek =
          .ok (visible text start).toList[n]? ∧
        (Head.advance^[n] (.ofStart text start)).offset = start + n) ∧
      (∃ result t, (∀ s u, Tape.ParsesScope config none (.ofStart text start []) s u ↔
          s = result ∧ u = t) ∧
        parseFrom? config text start = some (result.mapError (·.inText text))) ∧
      (∀ n : Nat, start = n → parseFrom? config text start = some (parseAt config text n)) ∧
      match parse config (visible text start) with
      | .ok e => parseFrom? config text start = some (.ok e)
      | .error e => ∃ e', parseFrom? config text start = some (.error e') ∧
          e'.cause.message = e.cause.message ∧ e'.position.text = text ∧
          e'.position.offset = e.position.offset + start) := by
  constructor
  · intro h
    have hrange : ¬ (Head.ofStart text start).InRange :=
      inRange_ofStart_iff.not.mpr (Int.not_le.mpr h)
    refine ⟨Head.peek_iterate_advance_eq_error hrange, ?_, ?_⟩
    · rintro s u ⟨out, hreads, -⟩
      exact hrange hreads.inRange
    · rw [parseFrom?, place?_eq_none h]
      rfl
  · intro h
    refine ⟨fun n => ⟨?_, Head.offset_iterate_advance _ n⟩, exists_parsesScope_iff config h, ?_, ?_⟩
    · rw [Head.peek_iterate_advance (inRange_ofStart_iff.mpr h), rest_ofStart]
    · rintro n rfl
      exact parseFrom?_natCast config text n
    · rw [parseFrom?, place?_eq_some h, Option.map_some, parseCursor_eq, String.ofList_toList]
      rcases parse config (visible text start) with e | tree
      · exact ⟨_, rfl, e.cause.message_shift, rfl, rfl⟩
      · rfl

/-- From its last character on, a text is read to its end and then from its beginning. -/
example : visible "b+a" (-1) = "ab+a" ∧
    (Head.ofStart "b+a" (-1)).advance.peek = .ok (some 'b') :=
  ⟨by decide, rfl⟩

end Expr

end Calculator
