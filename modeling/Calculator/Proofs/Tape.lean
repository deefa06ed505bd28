import Calculator.Proofs.Head
import Calculator.Proofs.Number.Scanning

/-!
# Reading character by character

A tape is a text under a reading head, with what the head has answered so far.  The two counts of
the head part as soon as a character is asked for at the end.  Numerals and names are read from a
tape by loops that look at the next character and then take it or stop.

## Main definitions

* `Tape`: a text under a reading head, and what was answered so far
* `Tape.Takes t cs t'`: from `t` to `t'` the characters `cs` are taken one by one
* `Tape.ReadsNumeral`, `Tape.ReadsName`: the loops that read a numeral and a name
* `Tape.ScansNumber`: the number at the head of a tape

## Main results

* `Tape.Takes.eq`: the counts go along with the characters taken
* `Tape.exists_scansNumber`, `Tape.exists_readsName`: the loops end
* `Tape.ScansNumber.scanNumber_eq`: the number is the one that a cursor reads
* `Tape.ReadsName.scanIdentifier_eq`: so is the name
-/

namespace Calculator

open Text

/-- A text under a reading head, with the answers of the head. -/
structure Tape extends Head where
  /-- What was answered whenever a character was asked for, the latest answer first. -/
  answers : List (Option Char)

namespace Tape

variable {t t' u v : Tape} {cs ds seg raw name out : List Char} {c : Char} {seen : Option Char}
  {point : Bool}

/-- The tape after a character was asked for. -/
def advance (t : Tape) : Tape :=
  { t.toHead.advance with answers := t.peek.toOption.toList ++ t.answers }

/-- The tape at a place of a text, after some answers. -/
def ofStart (text : String) (start : Int) (answers : List (Option Char)) : Tape :=
  ⟨Head.ofStart text start, answers⟩

/-- The tape as a cursor. -/
def cursor (t : Tape) : Cursor :=
  ⟨t.offset, t.rest⟩

theorem peek_cursor (hpeek : t.peek = .ok seen) : t.cursor.peek = seen :=
  Head.head?_rest hpeek

theorem cursor_ofStart (text : String) (start : Nat) (answers : List (Option Char)) :
    (ofStart text start answers).cursor = Cursor.ofStart text start := by
  rw [cursor, Cursor.ofStart, ← Head.rest_ofStart]
  rfl

theorem rest_eq_cons (hpeek : t.peek = .ok (some c)) : t.rest = c :: t.advance.rest :=
  Head.rest_eq_cons hpeek

theorem cursor_advance (hpeek : t.peek = .ok (some c)) : t.advance.cursor = t.cursor.advance := by
  rw [cursor, cursor, Cursor.advance, rest_eq_cons hpeek]
  rfl

theorem advance_eq (hpeek : t.peek = .ok (some c)) :
    t.advance = ⟨⟨t.chars, t.offset + 1, t.index + 1⟩, some c :: t.answers⟩ := by
  rw [advance, hpeek, Head.advance]
  simp only [hpeek]
  rfl

/-! ## Taking characters -/

/-- From one tape to another some characters are taken, one by one; none is asked for in vain. -/
inductive Takes : Tape → List Char → Tape → Prop where
  | nil (t : Tape) : Takes t [] t
  | cons {t t' : Tape} {c : Char} {cs : List Char} (hpeek : t.peek = .ok (some c))
      (h : Takes t.advance cs t') : Takes t (c :: cs) t'

namespace Takes

theorem single (hpeek : t.peek = .ok (some c)) : Takes t [c] t.advance :=
  .cons hpeek (.nil _)

theorem append (h : Takes t cs u) (k : Takes u ds v) : Takes t (cs ++ ds) v := by
  induction h with
  | nil => exact k
  | cons hpeek h ih => exact .cons hpeek (ih k)

theorem rest_eq (h : Takes t cs t') : t.rest = cs ++ t'.rest := by
  induction h with
  | nil => rfl
  | cons hpeek h ih => rw [rest_eq_cons hpeek, ih, List.cons_append]

/-- **The two counts go along** with the characters taken, and these are all that was answered. -/
theorem eq (h : Takes t cs t') :
    t' = ⟨⟨t.chars, t.offset + cs.length, t.index + cs.length⟩,
      (cs.map some).reverse ++ t.answers⟩ := by
  induction h with
  | nil t => simp
  | @cons t t' c cs hpeek h ih =>
    rw [ih, advance_eq hpeek]
    simp only [List.length_cons, List.map_cons, List.reverse_cons, List.append_assoc,
      List.singleton_append, Tape.mk.injEq, Head.mk.injEq, true_and, and_true]
    omega

theorem offset_eq (h : Takes t cs t') : t'.offset = t.offset + cs.length :=
  congrArg (·.offset) h.eq

theorem index_eq (h : Takes t cs t') : t'.index = t.index + cs.length :=
  congrArg (·.index) h.eq

theorem inRange (h : Takes t cs t') (hrange : t.InRange) : t'.InRange := by
  induction h with
  | nil => exact hrange
  | cons hpeek h ih => exact ih hrange.advance

theorem cursor_eq (h : Takes t cs t') : t'.cursor = t.cursor.skip cs.length := by
  rw [cursor, cursor, h.rest_eq, Cursor.skip_append, h.offset_eq]

theorem exists_cons (h : Takes t cs t') (hpeek : t.peek = .ok (some c)) (hne : cs ≠ []) :
    ∃ ds, cs = c :: ds := by
  cases h with
  | nil => exact absurd rfl hne
  | @cons _ _ d ds hd h =>
    obtain rfl : d = c := Option.some.inj (Except.ok.inj (hd.symm.trans hpeek))
    exact ⟨ds, rfl⟩

theorem length_rest (h : Takes t cs t') : t.rest.length = cs.length + t'.rest.length := by
  rw [h.rest_eq, List.length_append]

/-- How far one has come tells what was taken. -/
theorem unique (h : Takes t cs u) (k : Takes t ds v) (hoffset : u.offset = v.offset) : u = v := by
  have hlength : cs.length = ds.length := by
    rw [h.offset_eq, k.offset_eq] at hoffset
    omega
  obtain ⟨rfl, -⟩ := List.append_inj (h.rest_eq.symm.trans k.rest_eq) hlength
  rw [h.eq, k.eq]

/-- The offset at which the text ends, if it is read on to there, stays the same. -/
theorem ending_eq (h : Takes t cs t') :
    t.offset + t.rest.length = t'.offset + t'.rest.length := by
  rw [h.length_rest, h.offset_eq]
  omega

/-- From a place of a text on, the text between two places is taken. -/
theorem of_ofStart {text : String} {start : Nat} {answers : List (Option Char)}
    (h : Takes (ofStart text start answers) cs t') :
    cs = (text.toList.take (start + cs.length)).drop start ∧
      start + cs.length ≤ max start text.length ∧
      t' = ofStart text (start + cs.length) ((cs.map some).reverse ++ answers) := by
  have hdrop : text.toList.drop start = cs ++ t'.rest :=
    (Head.rest_ofStart text start).symm.trans h.rest_eq
  refine ⟨?_, ?_, ?_⟩
  · rw [List.drop_take, Nat.add_sub_cancel_left, hdrop, List.take_left]
  · have hlength := congrArg List.length hdrop
    rw [List.length_drop, List.length_append, String.length_toList] at hlength
    omega
  · rw [h.eq]
    rfl

end Takes

/-- Whatever reads on only after it has taken a character comes to an end. -/
@[elab_as_elim]
theorem takes_induction {motive : Tape → Prop} (t : Tape)
    (step : ∀ t, (∀ c seg u, Takes t (c :: seg) u → motive u) → motive t) : motive t := by
  -- on the number of characters ahead
  induction hn : t.rest.length using Nat.strongRecOn generalizing t with
  | _ n ih =>
    refine step t fun c seg u h => ih u.rest.length ?_ u rfl
    have hlength := h.length_rest
    rw [List.length_cons] at hlength
    omega

/-! ## Numerals -/

/-- The loop that reads a numeral, with the characters read so far and whether a point is among
them. -/
inductive ReadsNumeral : Tape → List Char → Bool → Except Fault (List Char) → Tape → Prop where
  | digit {t t' : Tape} {raw : List Char} {point : Bool} {run : Except Fault (List Char)} {c : Char}
      (hpeek : t.peek = .ok (some c)) (hc : c.isDigit = true)
      (h : ReadsNumeral t.advance (raw ++ [c]) point run t') : ReadsNumeral t raw point run t'
  | point {t t' : Tape} {raw : List Char} {run : Except Fault (List Char)}
      (hpeek : t.peek = .ok (some '.')) (h : ReadsNumeral t.advance (raw ++ ['.']) true run t') :
      ReadsNumeral t raw false run t'
  | second {t : Tape} {raw : List Char} (hpeek : t.peek = .ok (some '.')) :
      ReadsNumeral t raw true (.error ⟨.secondPoint, t.advance.offset⟩) t.advance
  | stop {t : Tape} {raw : List Char} {point : Bool} {seen : Option Char}
      (hpeek : t.peek = .ok seen) (hseen : ∀ c ∈ seen, c.isDigit = false ∧ c ≠ '.') :
      ReadsNumeral t raw point (.ok raw) t

/-- What becomes of a numeral that was read from an offset on: a number, unless it has no value. -/
def numberOf (offset : Int) : Except Fault (List Char) → Except Fault Float
  | .error f => .error f
  | .ok raw =>
    match Numeral.value? raw with
    | some x => .ok x
    | none => .error ⟨.unreadableNumber (String.ofList raw), offset⟩

/-- The number at the head of a tape. -/
def ScansNumber (t : Tape) (num : Except Fault Float) (t' : Tape) : Prop :=
  ∃ run, ReadsNumeral t [] false run t' ∧ num = numberOf t.offset run

/-- How the loop ends with the head of a tape behind a run: the next character does not continue the
run, and if it is a point it is taken too and reported. -/
inductive EndsRun (raw : List Char) (u : Tape) : Except Fault (List Char) → Tape → Prop where
  | stop {seen : Option Char} (hraw : Numeral.IsRun raw) (hpeek : u.peek = .ok seen)
      (hnext : ∀ c ∈ seen, ¬ Numeral.IsRun (raw ++ [c])) (hpoint : seen ≠ some '.') :
      EndsRun raw u (.ok raw) u
  | second (hraw : Numeral.IsRun raw) (hpeek : u.peek = .ok (some '.'))
      (hnext : ¬ Numeral.IsRun (raw ++ ['.'])) :
      EndsRun raw u (.error ⟨.secondPoint, u.advance.offset⟩) u.advance

/-- The loop takes a run, and no shorter one than there is. -/
theorem ReadsNumeral.exists_endsRun {run : Except Fault (List Char)}
    (h : ReadsNumeral t raw point run t') (hraw : Numeral.IsRun raw)
    (hpoint : point = true ↔ '.' ∈ raw) :
    ∃ seg u, Takes t seg u ∧ EndsRun (raw ++ seg) u run t' := by
  -- a character that is taken is the first of those that the rest of the loop takes
  have taken {t t' : Tape} {raw : List Char} {c : Char} {run : Except Fault (List Char)}
      (hpeek : t.peek = .ok (some c))
      (h : ∃ seg u, Takes t.advance seg u ∧ EndsRun (raw ++ [c] ++ seg) u run t') :
      ∃ seg u, Takes t seg u ∧ EndsRun (raw ++ seg) u run t' := by
    obtain ⟨seg, u, htakes, hends⟩ := h
    rw [List.append_assoc] at hends
    exact ⟨c :: seg, u, .cons hpeek htakes, hends⟩
  induction h with
  | @digit t t' raw point run c hpeek hc h ih =>
    have hpoint' : point = true ↔ '.' ∈ raw ++ [c] := by
      have hne : '.' ≠ c := (ne_of_isDigit hc rfl).symm
      simp [hpoint, hne]
    exact taken hpeek (ih (Numeral.isRun_append_singleton_iff.mpr ⟨hraw, .inl hc⟩) hpoint')
  | @point t t' raw run hpeek h ih =>
    have hmem : '.' ∉ raw := by simpa using hpoint
    exact taken hpeek
      (ih (Numeral.isRun_append_singleton_iff.mpr ⟨hraw, .inr ⟨rfl, hmem⟩⟩) (by simp))
  | @second t raw hpeek =>
    rw [← List.append_nil raw] at hraw
    refine ⟨[], t, .nil t, .second hraw hpeek fun hrun => ?_⟩
    rw [List.append_nil, Numeral.isRun_append_singleton_iff] at hrun
    exact hrun.2.elim (by decide) fun hdot => hdot.2 (hpoint.mp rfl)
  | @stop t raw point seen hpeek hseen =>
    refine ⟨[], t, .nil t, ?_⟩
    rw [List.append_nil]
    refine .stop hraw hpeek (fun c hc hrun => ?_) fun hdot => (hseen '.' hdot).2 rfl
    obtain ⟨hdigit, hne⟩ := hseen c hc
    rcases (Numeral.isRun_append_singleton_iff.mp hrun).2 with hc | ⟨rfl, -⟩
    · exact Bool.false_ne_true (hdigit.symm.trans hc)
    · exact hne rfl

/-- The run that is taken from the beginning is the one that is split off what is ahead, and a
cursor reads it to the same place. -/
theorem EndsRun.scanNumber_eq {run : Except Fault (List Char)} (h : EndsRun raw u run t')
    (htakes : Takes t raw u) : scanNumber t.cursor = (numberOf t.offset run, t'.cursor) := by
  have hsplit : (Numeral.split t.cursor.rest).1 = raw := by
    have hlongest : Numeral.IsLongestRun raw (raw ++ u.rest) := by
      cases h with
      | stop hraw hpeek hnext hpoint =>
        refine Numeral.isLongestRun_append hraw fun c hc => hnext c ?_
        rwa [← Head.head?_rest hpeek]
      | second hraw hpeek hnext =>
        refine Numeral.isLongestRun_append hraw fun c hc => ?_
        rw [Head.head?_rest hpeek] at hc
        obtain rfl := Option.some.inj hc
        exact hnext
    rw [← htakes.rest_eq] at hlongest
    exact (Numeral.isLongestRun_split t.rest).unique hlongest
  simp only [scanNumber, hsplit, ← htakes.cursor_eq]
  cases h with
  | stop hraw hpeek hnext hpoint =>
    rw [peek_cursor hpeek, if_neg hpoint, numberOf]
    cases Numeral.value? raw <;> rfl
  | second hraw hpeek hnext =>
    rw [peek_cursor hpeek, if_pos rfl, ← cursor_advance hpeek]
    rfl

namespace ScansNumber

variable {num : Except Fault Float}

/-- What a scan takes is a run, with one more point behind it if this is reported. -/
theorem exists_endsRun (h : ScansNumber t num t') :
    ∃ raw u run, Takes t raw u ∧ EndsRun raw u run t' ∧ num = numberOf t.offset run := by
  obtain ⟨run, h, rfl⟩ := h
  have hnil : Numeral.IsRun [] := Numeral.isRun_whole (List.forall_mem_nil _)
  obtain ⟨raw, u, htakes, hends⟩ := h.exists_endsRun hnil (by simp)
  exact ⟨raw, u, run, htakes, hends, rfl⟩

/-- **The number at the head of a tape** is the one at the cursor. -/
theorem scanNumber_eq (h : ScansNumber t num t') : scanNumber t.cursor = (num, t'.cursor) := by
  obtain ⟨raw, u, run, htakes, hends, rfl⟩ := h.exists_endsRun
  exact hends.scanNumber_eq htakes

/-- The characters that a scan takes are digits and points, and a digit is taken. -/
theorem exists_takes (h : ScansNumber t num t') :
    ∃ seg, Takes t seg t' ∧ (∀ c ∈ seg, c.isDigit = true ∨ c = '.') ∧
      ∀ c, t.peek = .ok (some c) → c.isDigit = true → seg ≠ [] := by
  obtain ⟨raw, u, run, htakes, hends, -⟩ := h.exists_endsRun
  cases hends with
  | stop hraw hpeek hnext hpoint =>
    refine ⟨raw, htakes, hraw.isDigit_or_eq, ?_⟩
    rintro c hc hdigit rfl
    cases htakes
    have hseen := Except.ok.inj (hpeek.symm.trans hc)
    exact hnext c hseen (Numeral.isRun_append_singleton_iff.mpr ⟨hraw, .inl hdigit⟩)
  | second hraw hpeek hnext =>
    refine ⟨raw ++ ['.'], htakes.append (.single hpeek), fun c hc => ?_, fun _ _ _ => by simp⟩
    rcases List.mem_append.mp hc with hc | hc
    · exact hraw.isDigit_or_eq c hc
    · exact .inr (List.mem_singleton.mp hc)

end ScansNumber

theorem exists_readsNumeral (hrange : t.InRange) (raw : List Char) (point : Bool) :
    ∃ run t', ReadsNumeral t raw point run t' := by
  induction t using takes_induction generalizing raw point with
  | step t ih =>
    rcases Head.peek_cases hrange with hpeek | ⟨c, hpeek⟩
    · exact ⟨_, t, .stop hpeek (by simp)⟩
    · -- by what the loop does with the next character
      have ih := ih c [] t.advance (.single hpeek) hrange.advance
      by_cases hdigit : c.isDigit = true
      · obtain ⟨run, t', h⟩ := ih (raw ++ [c]) point
        exact ⟨run, t', .digit hpeek hdigit h⟩
      by_cases hdot : c = '.'
      · subst hdot
        cases point with
        | true => exact ⟨_, _, .second hpeek⟩
        | false =>
          obtain ⟨run, t', h⟩ := ih (raw ++ ['.']) true
          exact ⟨run, t', .point hpeek h⟩
      · exact ⟨_, t, .stop hpeek (by simp [hdigit, hdot])⟩

theorem exists_scansNumber (hrange : t.InRange) : ∃ num t', ScansNumber t num t' := by
  obtain ⟨run, t', h⟩ := exists_readsNumeral hrange [] false
  exact ⟨_, t', run, h, rfl⟩

/-! ## Names -/

/-- The loop that reads a name, with the characters read so far. -/
inductive ReadsName : Tape → List Char → List Char → Tape → Prop where
  | letter {t t' : Tape} {name out : List Char} {c : Char} (hpeek : t.peek = .ok (some c))
      (hc : isAlphanumeric c = true) (h : ReadsName t.advance (name ++ [c]) out t') :
      ReadsName t name out t'
  | stop {t : Tape} {name : List Char} {seen : Option Char} (hpeek : t.peek = .ok seen)
      (hseen : ∀ c ∈ seen, isAlphanumeric c = false) : ReadsName t name name t

/-- The loop takes letters and numeric characters, and all that there are. -/
theorem ReadsName.exists_takes (h : ReadsName t name out t') :
    ∃ seg, Takes t seg t' ∧ out = name ++ seg ∧ (∀ c ∈ seg, isAlphanumeric c = true) ∧
      ∀ c ∈ t'.rest.head?, isAlphanumeric c = false := by
  induction h with
  | @letter t t' name out c hpeek hc h ih =>
    obtain ⟨seg, htakes, hout, hseg, hnext⟩ := ih
    refine ⟨c :: seg, .cons hpeek htakes, ?_, List.forall_mem_cons.mpr ⟨hc, hseg⟩, hnext⟩
    rw [hout, List.append_assoc, List.singleton_append]
  | stop hpeek hseen =>
    refine ⟨[], .nil _, (List.append_nil _).symm, List.forall_mem_nil _, ?_⟩
    rwa [Head.head?_rest hpeek]

/-- **The name at the head of a tape** is the one at the cursor. -/
theorem ReadsName.scanIdentifier_eq (h : ReadsName t [] out t') :
    scanIdentifier t.cursor = (String.ofList out, t'.cursor) := by
  obtain ⟨seg, htakes, hout, hseg, hnext⟩ := h.exists_takes
  rw [List.nil_append] at hout
  subst hout
  have hrest : t.cursor.rest = out ++ t'.rest := htakes.rest_eq
  obtain ⟨htake, -⟩ := takeWhile_append_of_head? hseg hnext
  rw [scanIdentifier, hrest, htake, ← htakes.cursor_eq]

theorem exists_readsName (hrange : t.InRange) (name : List Char) :
    ∃ out t', ReadsName t name out t' := by
  induction t using takes_induction generalizing name with
  | step t ih =>
    rcases Head.peek_cases hrange with hpeek | ⟨c, hpeek⟩
    · exact ⟨_, t, .stop hpeek (by simp)⟩
    · by_cases hc : isAlphanumeric c = true
      · obtain ⟨out, t', h⟩ := ih c [] t.advance (.single hpeek) hrange.advance (name ++ [c])
        exact ⟨out, t', .letter hpeek hc h⟩
      · exact ⟨_, t, .stop hpeek (by simp [hc])⟩

end Tape

end Calculator
