import Calculator.Proofs.Scope
import Calculator.Proofs.Lexemes
import Mathlib.Control.Monad.Basic

/-!
# The first fault is final

Lexemes are recognized by looking at most one character ahead, and a bracket scope is reduced as
soon as its bracket closes.  So a fault that is found before the end of a text is decided by the
characters read so far, whatever comes after them.

## Main definitions

* `Lexeme.StandsAlone`: the lexemes at which the reading of a text can break off
* `Expr.consumed config text`: how many characters of a text are read

## Main results

* `Scans.cut`: the lexemes up to one that stands alone, whatever follows it
* `Breaks.cut`: a reading that breaks off before the end does so at a lexeme that stands alone
* `Expr.parse_take_append`: the characters read before a fault, with anything behind them
-/

namespace Calculator

variable {offset ending reached : Int} {openedAt : Option Int} {cs seg rest us : List Char}
  {x : Located} {ls ws xs : List Located} {f : Fault}

/-! ## Lexemes before other characters -/

/-- A lexeme that is complete whatever follows it: a closing bracket, or a fault. -/
def Lexeme.StandsAlone : Lexeme → Prop
  | .closing => True
  | .fault _ => True
  | _ => False

theorem Forms.of_standsAlone (h : Forms rest seg x) (hx : x.lexeme.StandsAlone) (us : List Char) :
    Forms us seg x := by
  cases h with
  | lexeme hl hend o =>
    cases hl with
    | closing => exact .lexeme .closing trivial o
    | _ => exact hx.elim
  | invalid hc o => exact .invalid hc o
  | secondPoint hne hds hfs o => exact .secondPoint hne hds hfs o

/-- Only the next character is looked at. -/
theorem Forms.of_head? (h : Forms rest seg x) (hhead : us.head? = rest.head?) :
    Forms us seg x := by
  cases h with
  | lexeme hl hend o =>
    refine .lexeme hl ?_ o
    cases hl with
    | number | identifier =>
      intro c hc
      rw [hhead] at hc
      exact hend c hc
    | _ => trivial
  | invalid hc o => exact .invalid hc o
  | secondPoint hne hds hfs o => exact .secondPoint hne hds hfs o

/-- The characters up to a lexeme that stands alone have the same lexemes before every text. -/
theorem Scans.cut (h : Scans offset cs (ws ++ x :: xs)) (hx : x.lexeme.StandsAlone) :
    ∃ pre post, cs = pre ++ post ∧ pre ≠ [] ∧ x.offset = offset + pre.length ∧
      ∀ us, Scans offset (pre ++ us) (ws ++ x :: lexemes x.offset us) := by
  generalize hlocated : ws ++ x :: xs = located at h
  -- along the scan, up to the lexeme; those before it see the same next character
  induction h generalizing ws with
  | nil => simp at hlocated
  | @space offset c cs located hc h ih =>
    obtain ⟨pre, post, rfl, -, hoffset, hscans⟩ := ih hlocated
    refine ⟨c :: pre, post, rfl, List.cons_ne_nil _ _, ?_, fun us => .space hc (hscans us)⟩
    rw [hoffset, List.length_cons]
    omega
  | @item offset seg rest y located hy hoffset h ih =>
    rcases ws with _ | ⟨w, ws⟩
    · obtain ⟨rfl, rfl⟩ := List.cons.inj hlocated
      exact ⟨seg, rest, rfl, hy.ne_nil, hoffset,
        fun us => .item (hy.of_standsAlone hx us) hoffset (scans_lexemes _ us)⟩
    · obtain ⟨rfl, htail⟩ := List.cons.inj hlocated
      obtain ⟨pre, post, rfl, hne, hoffset', hscans⟩ := ih htail
      refine ⟨seg ++ pre, post, (List.append_assoc ..).symm, by simp [hne], ?_, fun us => ?_⟩
      · rw [hoffset', hoffset, List.length_append]
        omega
      · rw [List.append_assoc]
        refine .item (hy.of_head? ?_) hoffset (hscans us)
        obtain ⟨c, pre, rfl⟩ := List.exists_cons_of_ne_nil hne
        rfl

/-! ## Readings that break off -/

/-- A reading that breaks off before the end does so at a lexeme that stands alone, and does so
whatever follows this lexeme. -/
theorem Breaks.cut (h : Breaks ending openedAt ls f reached) :
    reached = ending ∨ ∃ ws x xs, ls = ws ++ x :: xs ∧ x.offset = reached ∧
      x.lexeme.StandsAlone ∧ ∀ ending' ys, Breaks ending' openedAt (ws ++ x :: ys) f reached := by
  induction h with
  | @unmatched ws rest ts o hws =>
    exact .inr ⟨ws, _, rest, rfl, rfl, trivial, fun ending' ys => .unmatched o hws⟩
  | missing opened hws => exact .inl rfl
  | @fault openedAt ws rest ts f o hws =>
    exact .inr ⟨ws, _, rest, rfl, rfl, trivial, fun ending' ys => .fault f o hws⟩
  | @inside openedAt ws us ts o reached f hws hus ih =>
    rcases ih with ih | ⟨vs, x, xs, rfl, hoffset, hx, hbreaks⟩
    · exact .inl ih
    -- the scope around the one that breaks off has been read up to the bracket
    refine .inr ⟨ws ++ ⟨.opening, o⟩ :: vs, x, xs, by simp, hoffset, hx, fun ending' ys => ?_⟩
    rw [List.append_assoc]
    exact .inside hws (hbreaks ending' ys)
  | @closing openedAt ws us rest ts inner o o' f hws hus hclose =>
    refine .inr ⟨ws ++ ⟨.opening, o⟩ :: us, ⟨.closing, o'⟩, rest, by simp, rfl, trivial,
      fun ending' ys => ?_⟩
    rw [List.append_assoc]
    exact .closing hws hus hclose

/-- A fault before the end of the characters ahead is that of the characters read. -/
theorem Scope.parse_append_of_error {config : ParserConfig} {c : Cursor}
    (h : parse config c none = (.error f, reached))
    (hreached : reached < c.offset + c.rest.length) :
    ∃ pre post, c.rest = pre ++ post ∧ reached = c.offset + pre.length ∧
      ∀ us, parse config ⟨c.offset, pre ++ us⟩ none = (.error f, reached) := by
  rcases reads_or_breaks (c.offset + c.rest.length) (lexemes c.offset c.rest) with
    ⟨ts, hreads⟩ | ⟨f', reached', hbreaks⟩
  · -- what is read as a whole is read to its end
    have hend := reached_of_reads config hreads
    rw [h] at hend
    exact absurd hend (Int.ne_of_lt hreached)
  · obtain ⟨hf, rfl⟩ := Prod.mk.inj (h.symm.trans (parse_of_breaks config hbreaks))
    obtain rfl := Except.error.inj hf
    rcases hbreaks.cut with hend | ⟨ws, x, xs, hls, rfl, hx, hbreaks⟩
    · exact absurd hend (Int.ne_of_lt hreached)
    have hscans := scans_lexemes c.offset c.rest
    rw [hls] at hscans
    obtain ⟨pre, post, hrest, -, hoffset, hscans⟩ := hscans.cut hx
    refine ⟨pre, post, hrest, hoffset, fun us => parse_of_breaks config ?_⟩
    rw [← (hscans us).eq_lexemes]
    exact hbreaks _ _

namespace Expr

/-- How many characters of a text are read, be it that an expression is found or a fault. -/
def consumed (config : ParserConfig) (text : String) : Int :=
  (Scope.parse config (Cursor.ofStart text 0) none).2

theorem exists_scope_error {config : ParserConfig} {text : String} {e : ParseError}
    (h : parse config text = .error e) :
    ∃ f, Scope.parse config (Cursor.ofStart text 0) none = (.error f, consumed config text) ∧
      f.inText text = e := by
  rw [parse, parseAt, parseCursor] at h
  rw [consumed]
  generalize Scope.parse config (Cursor.ofStart text 0) none = outcome at h ⊢
  obtain ⟨f | tree, reached⟩ := outcome
  · exact ⟨f, rfl, Except.error.inj h⟩
  · cases h

theorem parse_of_scope_error {config : ParserConfig} {text : String}
    (h : Scope.parse config (Cursor.ofStart text 0) none = (.error f, reached)) :
    parse config text = .error (f.inText text) ∧ consumed config text = reached := by
  rw [parse, parseAt, parseCursor, consumed, h]
  exact ⟨rfl, rfl⟩

/-- **The first fault is final**: if reading a text fails before its end, then the characters read
until then fail in the same way whatever stands behind them. -/
theorem parse_take_append {config : ParserConfig} {text : String} {e : ParseError}
    (h : parse config text = .error e) (hconsumed : consumed config text < text.length) :
    0 ≤ consumed config text ∧ ∀ more : String,
      let text' := String.ofList (text.toList.take (consumed config text).toNat) ++ more
      parse config text' = .error ⟨e.cause, ⟨text', e.position.offset⟩⟩ ∧
        consumed config text' = consumed config text := by
  obtain ⟨f, hparse, rfl⟩ := exists_scope_error h
  have hbefore : consumed config text < (0 : Nat) + text.toList.length := by
    rwa [String.length_toList, Int.natCast_zero, Int.zero_add]
  obtain ⟨pre, post, htext, hreached, hfinal⟩ := Scope.parse_append_of_error hparse hbefore
  have htext : text.toList = pre ++ post := htext
  have hreached : consumed config text = pre.length := hreached.trans (Int.zero_add _)
  refine ⟨by rw [hreached]; exact Int.natCast_nonneg _, ?_⟩
  intro more text'
  -- what is kept of the text are the characters read
  have hcursor : Cursor.ofStart text' 0 = ⟨0, pre ++ more.toList⟩ := by
    simp [text', Cursor.ofStart, htext, hreached]
  have hmore : Scope.parse config (Cursor.ofStart text' 0) none =
      (.error f, consumed config text) := by
    rw [hcursor]
    exact hfinal more.toList
  exact parse_of_scope_error hmore

/-- An empty pair of brackets is a fault as soon as it is closed. -/
theorem parse_emptyBrackets_append :
    (parse {} "(a + ()) * b" = .error ⟨.emptyBrackets, ⟨"(a + ()) * b", 6⟩⟩ ∧
      consumed {} "(a + ()) * b" < "(a + ()) * b".length) ∧
    parse {} ("(a + ()" ++ ") )") = .error ⟨.emptyBrackets, ⟨"(a + ()" ++ ") )", 6⟩⟩ := by
  have h : parse {} "(a + ()) * b" = .error ⟨.emptyBrackets, ⟨"(a + ()) * b", 6⟩⟩ := by
    decide +kernel
  have hreached : consumed {} "(a + ()) * b" = 7 := by decide +kernel
  have hconsumed : consumed {} "(a + ()) * b" < "(a + ()) * b".length := by
    rw [hreached]
    decide
  have hfinal := ((parse_take_append h hconsumed).2 ") )").1
  rw [hreached] at hfinal
  exact ⟨⟨h, hconsumed⟩, hfinal⟩

end Expr

end Calculator
