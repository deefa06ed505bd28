import Calculator.Lexeme
import Mathlib.Data.List.TakeWhile

/-!
# The lexemes of a text

## Main definitions

* `IsNumeral raw`: digits with at most one point, the first of them a digit
* `Spells seg l`: the characters `seg` write the lexeme `l`
* `Lexeme.EndsBefore l rest`: `l` cannot go on into `rest`
* `Splits cs ls`: `cs` is white space and the lexemes `ls`, each as long as it can be
* `Scans offset cs located`: the same with the offsets at which lexemes end, and with faults
* `Boundary rest`: `rest` may follow any lexeme

## Main results

* `scans_lexemes`: `lexemes` scans every text
* `Splits.map_lexemes`, `Scans.splits`: the splits of a text are its lexemes, if none is a fault
* `Splits.unique`: a text splits in one way at most
* `Splits.append`: texts may be joined at a boundary
-/

namespace Calculator

open Text

/-! ## Classes of characters -/

section Classes

variable {c : Char}

theorem mem_of_isSpace (h : isSpace c = true) :
    c.toNat ∈ [9, 10, 11, 12, 13, 28, 29, 30, 31, 32, 133, 160, 5760, 8192, 8193, 8194, 8195, 8196,
      8197, 8198, 8199, 8200, 8201, 8202, 8232, 8233, 8239, 8287, 12288] := by
  simp only [isSpace, spaceRuns, Runs.contains_cons_cons, Runs.contains_nil, Bool.or_false,
    Bool.and_eq_true, Bool.or_eq_true, decide_eq_true_eq] at h
  simp only [List.mem_cons, List.not_mem_nil, or_false]
  omega

theorem isAlphanumeric_eq_false_of_isSpace (h : isSpace c = true) : isAlphanumeric c = false := by
  -- white space is a short list of code points, and none of them is in the tables of the others
  have key : ∀ n ∈ [9, 10, 11, 12, 13, 28, 29, 30, 31, 32, 133, 160, 5760, 8192, 8193, 8194, 8195,
      8196, 8197, 8198, 8199, 8200, 8201, 8202, 8232, 8233, 8239, 8287, 12288],
      (letterRuns.contains n || numericRuns.contains n) = false := by
    decide +kernel
  exact key _ (mem_of_isSpace h)

theorem toNat_of_isDigit (h : c.isDigit = true) : 48 ≤ c.toNat ∧ c.toNat ≤ 57 := by
  simp only [Char.isDigit, Bool.and_eq_true, decide_eq_true_eq, ge_iff_le,
    UInt32.le_iff_toNat_le] at h
  exact h

theorem isLetter_eq_false_of_isDigit (h : c.isDigit = true) : isLetter c = false := by
  have key : ∀ n ≤ 57, letterRuns.contains n = false := by decide +kernel
  exact key _ (toNat_of_isDigit h).2

theorem isSpace_eq_false_of_isDigit (h : c.isDigit = true) : isSpace c = false := by
  have key : ∀ n ≤ 57, 48 ≤ n → spaceRuns.contains n = false := by decide +kernel
  exact key _ (toNat_of_isDigit h).2 (toNat_of_isDigit h).1

theorem isSpace_eq_false_of_isAlphanumeric (h : isAlphanumeric c = true) : isSpace c = false := by
  rw [← Bool.not_eq_true]
  intro hspace
  exact Bool.false_ne_true ((isAlphanumeric_eq_false_of_isSpace hspace).symm.trans h)

theorem isSpace_eq_false_of_isLetter (h : isLetter c = true) : isSpace c = false :=
  isSpace_eq_false_of_isAlphanumeric (isAlphanumeric_of_isLetter h)

theorem eq_symbol_of_ofSymbol? {op : Operator} (h : Operator.ofSymbol? c = some op) :
    c = op.symbol := by
  simpa [eq_comm] using List.find?_some h

theorem ne_of_isAlphanumeric {d : Char} (h : isAlphanumeric c = true)
    (hd : isAlphanumeric d = false) : c ≠ d := by
  rintro rfl
  exact Bool.false_ne_true (hd.symm.trans h)

theorem ne_of_isDigit {d : Char} (h : c.isDigit = true) (hd : d.isDigit = false) : c ≠ d := by
  rintro rfl
  exact Bool.false_ne_true (hd.symm.trans h)

theorem classify_of_isSpace (h : isSpace c = true) : classify c = .whitespace := by
  rw [classify, if_pos h]

theorem classify_of_isDigit (h : c.isDigit = true) : classify c = .number := by
  rw [classify, isSpace_eq_false_of_isDigit h, if_neg Bool.false_ne_true,
    if_neg (ne_of_isDigit h rfl), if_neg (ne_of_isDigit h rfl), if_pos h]

theorem classify_of_isLetter (h : isLetter c = true) : classify c = .identifier := by
  have hdigit : c.isDigit = false := by
    rw [← Bool.not_eq_true]
    intro hd
    exact Bool.false_ne_true ((isLetter_eq_false_of_isDigit hd).symm.trans h)
  have halpha := isAlphanumeric_of_isLetter h
  rw [classify, isSpace_eq_false_of_isLetter h, if_neg Bool.false_ne_true,
    if_neg (ne_of_isAlphanumeric halpha (by decide)),
    if_neg (ne_of_isAlphanumeric halpha (by decide)), hdigit, if_neg Bool.false_ne_true, if_pos h]

/-- The characters that begin what is of a kind. -/
def CharKind.Admits : CharKind → Char → Prop
  | .whitespace, c => isSpace c = true
  | .opening, c => c = '('
  | .closing, c => c = ')'
  | .number, c => c.isDigit = true
  | .identifier, c => isLetter c = true
  | .operator op, c => c = op.symbol
  | .invalid, _ => True

theorem admits_of_classify {kind : CharKind} (h : classify c = kind) : kind.Admits c := by
  subst h
  -- in the order in which `classify` asks
  by_cases hspace : isSpace c = true
  · rwa [classify, if_pos hspace]
  by_cases hopening : c = '('
  · rwa [classify, if_neg hspace, if_pos hopening]
  by_cases hclosing : c = ')'
  · rwa [classify, if_neg hspace, if_neg hopening, if_pos hclosing]
  by_cases hdigit : c.isDigit = true
  · rwa [classify, if_neg hspace, if_neg hopening, if_neg hclosing, if_pos hdigit]
  by_cases hletter : isLetter c = true
  · rwa [classify, if_neg hspace, if_neg hopening, if_neg hclosing, if_neg hdigit, if_pos hletter]
  rw [classify, if_neg hspace, if_neg hopening, if_neg hclosing, if_neg hdigit, if_neg hletter]
  cases hop : Operator.ofSymbol? c with
  | some op => exact eq_symbol_of_ofSymbol? hop
  | none => trivial

theorem classify_symbol (op : Operator) : classify op.symbol = .operator op := by
  cases op <;> decide

end Classes

/-! ## The characters of a lexeme -/

/-- Digits with at most one point; the first character is a digit. -/
inductive IsNumeral : List Char → Prop where
  | whole {ds : List Char} (hne : ds ≠ []) (hds : ∀ c ∈ ds, c.isDigit) : IsNumeral ds
  | point {ds fs : List Char} (hne : ds ≠ []) (hds : ∀ c ∈ ds, c.isDigit)
      (hfs : ∀ c ∈ fs, c.isDigit) : IsNumeral (ds ++ '.' :: fs)

/-- The characters that write a lexeme. -/
inductive Spells : List Char → Lexeme → Prop where
  | number {raw : List Char} (h : IsNumeral raw) :
      Spells raw (.number ((Numeral.decimal raw).toFloat false))
  | identifier {c : Char} {cs : List Char} (hc : isLetter c) (hcs : ∀ d ∈ cs, isAlphanumeric d) :
      Spells (c :: cs) (.identifier (String.ofList (c :: cs)))
  | operator (op : Operator) : Spells [op.symbol] (.operator op)
  | opening : Spells ['('] .opening
  | closing : Spells [')'] .closing

/-- Whether a lexeme cannot be continued by the characters after it.  A point does not continue
every numeral, but none is followed by one. -/
def Lexeme.EndsBefore : Lexeme → List Char → Prop
  | .number _, rest => ∀ c ∈ rest.head?, c.isDigit = false ∧ c ≠ '.'
  | .identifier _, rest => ∀ c ∈ rest.head?, isAlphanumeric c = false
  | _, _ => True

theorem takeWhile_append_of_head? {p : Char → Bool} {us rest : List Char} (hus : ∀ c ∈ us, p c)
    (hrest : ∀ c ∈ rest.head?, p c = false) :
    (us ++ rest).takeWhile p = us ∧ (us ++ rest).dropWhile p = rest := by
  rw [List.takeWhile_append_of_pos hus, List.dropWhile_append_of_pos hus]
  rcases rest with _ | ⟨c, rest⟩
  · simp
  · simp [hrest c rfl]

theorem split_whole {ds rest : List Char} (hds : ∀ c ∈ ds, c.isDigit)
    (hrest : ∀ c ∈ rest.head?, c.isDigit = false ∧ c ≠ '.') :
    Numeral.split (ds ++ rest) = (ds, rest) := by
  obtain ⟨htake, hdrop⟩ := takeWhile_append_of_head? hds fun c hc => (hrest c hc).1
  unfold Numeral.split
  rw [htake, hdrop]
  split
  · exact absurd rfl (hrest '.' rfl).2
  · rfl

theorem split_point {ds fs rest : List Char} (hds : ∀ c ∈ ds, c.isDigit)
    (hfs : ∀ c ∈ fs, c.isDigit) (hrest : ∀ c ∈ rest.head?, c.isDigit = false) :
    Numeral.split (ds ++ '.' :: fs ++ rest) = (ds ++ '.' :: fs, rest) := by
  have hpoint : ∀ c ∈ ('.' :: fs ++ rest).head?, c.isDigit = false := by
    intro c hc
    obtain rfl : '.' = c := by simpa using hc
    rfl
  obtain ⟨htake, hdrop⟩ := takeWhile_append_of_head? hds hpoint
  obtain ⟨htake', hdrop'⟩ := takeWhile_append_of_head? hfs hrest
  unfold Numeral.split
  rw [List.append_assoc, htake, hdrop]
  simp only [List.cons_append, htake', hdrop']

theorem IsNumeral.any_isDigit {raw : List Char} (h : IsNumeral raw) :
    raw.any Char.isDigit = true := by
  cases h with
  | whole hne hds =>
    obtain ⟨c, hc⟩ := List.exists_mem_of_ne_nil _ hne
    exact List.any_eq_true.mpr ⟨c, hc, hds c hc⟩
  | point hne hds hfs =>
    obtain ⟨c, hc⟩ := List.exists_mem_of_ne_nil _ hne
    exact List.any_eq_true.mpr ⟨c, List.mem_append_left _ hc, hds c hc⟩

theorem IsNumeral.exists_cons {raw : List Char} (h : IsNumeral raw) :
    ∃ c cs, raw = c :: cs ∧ c.isDigit := by
  cases h with
  | whole hne hds =>
    obtain ⟨c, cs, rfl⟩ := List.exists_cons_of_ne_nil hne
    exact ⟨c, cs, rfl, hds c List.mem_cons_self⟩
  | point hne hds hfs =>
    obtain ⟨c, cs, rfl⟩ := List.exists_cons_of_ne_nil hne
    exact ⟨c, _, rfl, hds c List.mem_cons_self⟩

theorem IsNumeral.mem {raw : List Char} {c : Char} (h : IsNumeral raw) (hc : c ∈ raw) :
    c.isDigit = true ∨ c = '.' := by
  cases h with
  | whole hne hds => exact .inl (hds c hc)
  | point hne hds hfs =>
    rcases List.mem_append.mp hc with hc | hc
    · exact .inl (hds c hc)
    · rcases List.mem_cons.mp hc with hc | hc
      · exact .inr hc
      · exact .inl (hfs c hc)

theorem Cursor.skip_append (offset : Int) (seg rest : List Char) :
    Cursor.skip ⟨offset, seg ++ rest⟩ seg.length = ⟨offset + seg.length, rest⟩ := by
  simp [Cursor.skip]

/-- A numeral is read as a number unless a point follows it. -/
theorem scanNumber_of_split {raw rest : List Char} (hraw : IsNumeral raw)
    (hsplit : Numeral.split (raw ++ rest) = (raw, rest)) (offset : Int) :
    scanNumber ⟨offset, raw ++ rest⟩ =
      if rest.head? = some '.' then
        (.error ⟨.secondPoint, offset + raw.length + 1⟩, ⟨offset + raw.length + 1, rest.drop 1⟩)
      else (.ok ((Numeral.decimal raw).toFloat false), ⟨offset + raw.length, rest⟩) := by
  simp only [scanNumber, hsplit, Cursor.skip_append, Cursor.peek, Cursor.advance, Numeral.value?,
    hraw.any_isDigit, if_true]

/-- A numeral that is not continued is read as a whole. -/
theorem scanNumber_of_isNumeral {raw rest : List Char} (hraw : IsNumeral raw)
    (hrest : ∀ c ∈ rest.head?, c.isDigit = false ∧ c ≠ '.') (offset : Int) :
    scanNumber ⟨offset, raw ++ rest⟩ =
      (.ok ((Numeral.decimal raw).toFloat false), ⟨offset + raw.length, rest⟩) := by
  have hsplit : Numeral.split (raw ++ rest) = (raw, rest) := by
    cases hraw with
    | whole _ hds => exact split_whole hds hrest
    | point _ hds hfs => exact split_point hds hfs fun c hc => (hrest c hc).1
  have hpeek : rest.head? ≠ some '.' := fun hp => (hrest '.' hp).2 rfl
  rw [scanNumber_of_split hraw hsplit, if_neg hpeek]

/-! ## The lexemes from a place on -/

section Steps

variable {offset : Int} {c : Char} {cs seg rest : List Char} {l : Lexeme}

theorem Spells.ne_nil (h : Spells seg l) : seg ≠ [] := by
  cases h with
  | number h =>
    obtain ⟨c, cs, rfl, -⟩ := h.exists_cons
    exact List.cons_ne_nil _ _
  | _ => exact List.cons_ne_nil _ _

/-- One step of `lexemes`, over characters `seg` that it takes as a whole. -/
theorem lexemes_append {found : Option Lexeme} (hcs : c :: cs = seg ++ rest) (hne : seg ≠ [])
    (h : leadingLexeme offset c cs = (found, offset + seg.length)) :
    lexemes offset (seg ++ rest) =
      (found.map (⟨·, offset + seg.length⟩)).toList ++ lexemes (offset + seg.length) rest := by
  obtain ⟨d, ds, rfl⟩ := List.exists_cons_of_ne_nil hne
  obtain ⟨rfl, rfl⟩ : c = d ∧ cs = ds ++ rest := by simpa using hcs
  have hdrop : (offset + ((c :: ds).length : Int) - offset).toNat - 1 = ds.length := by
    rw [List.length_cons]
    omega
  rw [List.cons_append, lexemes, h]
  simp only [hdrop, List.drop_left]
  cases found <;> rfl

theorem lexemes_of_isSpace (hc : isSpace c = true) :
    lexemes offset (c :: cs) = lexemes (offset + 1) cs := by
  have h : leadingLexeme offset c cs = (none, offset + 1) := by
    rw [leadingLexeme, classify_of_isSpace hc]
  have hne : [c] ≠ [] := List.cons_ne_nil _ _
  exact lexemes_append rfl hne h

theorem lexemes_of_invalid (hc : classify c = .invalid) :
    lexemes offset (c :: cs) =
      ⟨.fault ⟨.invalidToken c, offset + 1⟩, offset + 1⟩ :: lexemes (offset + 1) cs := by
  have h : leadingLexeme offset c cs =
      (some (.fault ⟨.invalidToken c, offset + 1⟩), offset + 1) := by
    rw [leadingLexeme, hc]
  have hne : [c] ≠ [] := List.cons_ne_nil _ _
  exact lexemes_append rfl hne h

theorem lexemes_of_spells (h : Spells seg l) (hend : l.EndsBefore rest) :
    lexemes offset (seg ++ rest) =
      ⟨l, offset + seg.length⟩ :: lexemes (offset + seg.length) rest := by
  -- by the kind of the first character
  suffices hl : ∃ c cs, c :: cs = seg ++ rest ∧
      leadingLexeme offset c cs = (some l, offset + seg.length) by
    obtain ⟨c, cs, hcs, hl⟩ := hl
    exact lexemes_append hcs h.ne_nil hl
  cases h with
  | number h =>
    obtain ⟨c, cs, hcs, hc⟩ := h.exists_cons
    refine ⟨c, cs ++ rest, by rw [hcs, List.cons_append], ?_⟩
    rw [leadingLexeme, classify_of_isDigit hc, ← List.cons_append, ← hcs,
      scanNumber_of_isNumeral h hend]
  | @identifier c cs hc hcs =>
    have hall : ∀ d ∈ c :: cs, isAlphanumeric d := by
      simpa [isAlphanumeric_of_isLetter hc] using hcs
    obtain ⟨htake, -⟩ := takeWhile_append_of_head? hall hend
    refine ⟨c, cs ++ rest, rfl, ?_⟩
    rw [leadingLexeme, classify_of_isLetter hc, ← List.cons_append, scanIdentifier, htake]
    rfl
  | operator op =>
    refine ⟨op.symbol, rest, rfl, ?_⟩
    rw [leadingLexeme, classify_symbol]
    rfl
  | opening => exact ⟨'(', rest, rfl, rfl⟩
  | closing => exact ⟨')', rest, rfl, rfl⟩

theorem lexemes_of_secondPoint {ds fs : List Char} (hne : ds ≠ []) (hds : ∀ c ∈ ds, c.isDigit)
    (hfs : ∀ c ∈ fs, c.isDigit) :
    lexemes offset (ds ++ '.' :: fs ++ ['.'] ++ rest) =
      ⟨.fault ⟨.secondPoint, offset + (ds ++ '.' :: fs ++ ['.']).length⟩,
        offset + (ds ++ '.' :: fs ++ ['.']).length⟩ ::
        lexemes (offset + (ds ++ '.' :: fs ++ ['.']).length) rest := by
  have hraw := IsNumeral.point hne hds hfs
  obtain ⟨c, cs, hcs, hc⟩ := hraw.exists_cons
  have hpoint : ∀ c ∈ ('.' :: rest).head?, c.isDigit = false := by
    intro c hc
    obtain rfl : '.' = c := by simpa using hc
    rfl
  have hlength : offset + ((ds ++ '.' :: fs ++ ['.']).length : Int) =
      offset + (ds ++ '.' :: fs).length + 1 := by
    rw [List.length_append, List.length_singleton]
    omega
  have h : leadingLexeme offset c (cs ++ '.' :: rest) =
      (some (.fault ⟨.secondPoint, offset + (ds ++ '.' :: fs ++ ['.']).length⟩),
        offset + (ds ++ '.' :: fs ++ ['.']).length) := by
    rw [leadingLexeme, classify_of_isDigit hc, ← List.cons_append, ← hcs,
      scanNumber_of_split hraw (split_point hds hfs hpoint), List.head?_cons, if_pos rfl, hlength]
  exact lexemes_append (by rw [hcs]; simp) (by simp) h

theorem head?_dropWhile {p : Char → Bool} (cs : List Char) :
    ∀ c ∈ (cs.dropWhile p).head?, p c = false := by
  intro c hc
  have := List.head?_dropWhile_not p cs
  rw [Option.mem_def] at hc
  simpa [hc] using this

/-- A digit begins a number, or a numeral whose second point is a fault. -/
theorem numeral_cases (hc : c.isDigit = true) :
    (∃ seg rest l, c :: cs = seg ++ rest ∧ Spells seg l ∧ l.EndsBefore rest) ∨
      ∃ ds fs rest, ds ≠ [] ∧ (∀ c ∈ ds, c.isDigit) ∧ (∀ c ∈ fs, c.isDigit) ∧
        c :: cs = ds ++ '.' :: fs ++ ['.'] ++ rest := by
  have hds : ∀ d ∈ (c :: cs).takeWhile Char.isDigit, d.isDigit := fun _ =>
    List.mem_takeWhile_imp
  have hne : (c :: cs).takeWhile Char.isDigit ≠ [] := by
    rw [List.takeWhile_cons_of_pos hc]
    exact List.cons_ne_nil _ _
  have hsplit : c :: cs = (c :: cs).takeWhile Char.isDigit ++ (c :: cs).dropWhile Char.isDigit :=
    List.takeWhile_append_dropWhile.symm
  have hend := head?_dropWhile (p := Char.isDigit) (c :: cs)
  generalize (c :: cs).takeWhile Char.isDigit = ds at *
  generalize (c :: cs).dropWhile Char.isDigit = rest at *
  -- after the digits comes a point with more digits, or the numeral ends
  rcases rest with _ | ⟨d, rest⟩
  · exact .inl ⟨ds, [], _, hsplit, .number (.whole hne hds), by simp [Lexeme.EndsBefore]⟩
  by_cases hd : d = '.'
  · subst hd
    have hfs : ∀ f ∈ rest.takeWhile Char.isDigit, f.isDigit := fun _ => List.mem_takeWhile_imp
    have hrest : rest = rest.takeWhile Char.isDigit ++ rest.dropWhile Char.isDigit :=
      List.takeWhile_append_dropWhile.symm
    have hend' := head?_dropWhile (p := Char.isDigit) rest
    generalize rest.takeWhile Char.isDigit = fs at *
    generalize rest.dropWhile Char.isDigit = more at *
    subst hrest
    by_cases hmore : more.head? = some '.'
    · obtain ⟨more, rfl⟩ := List.head?_eq_some_iff.mp hmore
      exact .inr ⟨ds, fs, more, hne, hds, hfs, by simpa using hsplit⟩
    · refine .inl ⟨ds ++ '.' :: fs, more, _, by simpa using hsplit,
        .number (.point hne hds hfs), fun e he => ⟨hend' e he, ?_⟩⟩
      rintro rfl
      exact hmore he
  · refine .inl ⟨ds, d :: rest, _, hsplit, .number (.whole hne hds), fun e he => ?_⟩
    obtain rfl : d = e := by simpa using he
    exact ⟨hend d rfl, hd⟩

/-- What a text can begin with. -/
theorem leading_cases (c : Char) (cs : List Char) :
    isSpace c = true ∨ classify c = .invalid ∨
      (∃ seg rest l, c :: cs = seg ++ rest ∧ Spells seg l ∧ l.EndsBefore rest) ∨
      ∃ ds fs rest, ds ≠ [] ∧ (∀ c ∈ ds, c.isDigit) ∧ (∀ c ∈ fs, c.isDigit) ∧
        c :: cs = ds ++ '.' :: fs ++ ['.'] ++ rest := by
  -- in the order in which `classify` asks
  by_cases hspace : isSpace c = true
  · exact .inl hspace
  by_cases hopening : c = '('
  · exact .inr (.inr (.inl ⟨['('], cs, .opening, by rw [hopening]; rfl, .opening, trivial⟩))
  by_cases hclosing : c = ')'
  · exact .inr (.inr (.inl ⟨[')'], cs, .closing, by rw [hclosing]; rfl, .closing, trivial⟩))
  by_cases hdigit : c.isDigit = true
  · exact .inr (.inr (numeral_cases hdigit))
  by_cases hletter : isLetter c = true
  · refine .inr (.inr (.inl ⟨c :: cs.takeWhile isAlphanumeric, cs.dropWhile isAlphanumeric, _,
      ?_, .identifier hletter fun _ => List.mem_takeWhile_imp, head?_dropWhile cs⟩))
    rw [List.cons_append, List.takeWhile_append_dropWhile]
  cases hop : Operator.ofSymbol? c with
  | some op =>
    refine .inr (.inr (.inl ⟨[op.symbol], cs, .operator op, ?_, .operator op, trivial⟩))
    rw [eq_symbol_of_ofSymbol? hop]
    rfl
  | none =>
    refine .inr (.inl ?_)
    rw [classify, if_neg hspace, if_neg hopening, if_neg hclosing, if_neg hdigit, if_neg hletter,
      hop]

end Steps

/-- The characters that, before `rest`, are read as a lexeme or as a fault. -/
inductive Forms (rest : List Char) : List Char → Located → Prop where
  | lexeme {seg : List Char} {l : Lexeme} (hl : Spells seg l) (hend : l.EndsBefore rest) (o : Int) :
      Forms rest seg ⟨l, o⟩
  | invalid {c : Char} (hc : classify c = .invalid) (o : Int) :
      Forms rest [c] ⟨.fault ⟨.invalidToken c, o⟩, o⟩
  | secondPoint {ds fs : List Char} (hne : ds ≠ []) (hds : ∀ c ∈ ds, c.isDigit)
      (hfs : ∀ c ∈ fs, c.isDigit) (o : Int) :
      Forms rest (ds ++ '.' :: fs ++ ['.']) ⟨.fault ⟨.secondPoint, o⟩, o⟩

/-- Scanning a text from an offset: white space, and lexemes with the offsets at which they end.  A
fault stands among them as a lexeme of its own. -/
inductive Scans : Int → List Char → List Located → Prop where
  | nil (offset : Int) : Scans offset [] []
  | space {offset : Int} {c : Char} {cs : List Char} {located : List Located}
      (hc : isSpace c = true) (h : Scans (offset + 1) cs located) : Scans offset (c :: cs) located
  | item {offset : Int} {seg rest : List Char} {x : Located} {located : List Located}
      (hx : Forms rest seg x) (hoffset : x.offset = offset + seg.length)
      (h : Scans x.offset rest located) : Scans offset (seg ++ rest) (x :: located)

theorem Forms.ne_nil {seg rest : List Char} {x : Located} (h : Forms rest seg x) : seg ≠ [] := by
  cases h with
  | lexeme hl => exact hl.ne_nil
  | invalid => exact List.cons_ne_nil _ _
  | secondPoint => simp

theorem scans_lexemes (offset : Int) (cs : List Char) : Scans offset cs (lexemes offset cs) := by
  induction hn : cs.length using Nat.strongRecOn generalizing offset cs with
  | _ n ih =>
    subst hn
    rcases cs with _ | ⟨c, cs⟩
    · rw [lexemes]
      exact .nil offset
    -- what is left after an item is shorter
    have item {seg rest : List Char} {x : Located} (hcs : c :: cs = seg ++ rest)
        (hx : Forms rest seg x) (hoffset : x.offset = offset + seg.length) :
        Scans offset (c :: cs) (x :: lexemes x.offset rest) := by
      rw [hcs]
      have := List.length_pos_iff.mpr hx.ne_nil
      refine .item hx hoffset (ih _ ?_ _ _ rfl)
      rw [hcs, List.length_append]
      omega
    rcases leading_cases c cs with hc | hc | ⟨seg, rest, l, hcs, hl, hend⟩ |
      ⟨ds, fs, rest, hne, hds, hfs, hcs⟩
    · rw [lexemes_of_isSpace hc]
      exact .space hc (ih _ (Nat.lt_succ_self _) _ _ rfl)
    · rw [lexemes_of_invalid hc]
      exact item rfl (.invalid hc (offset + 1)) rfl
    · have hlexemes := item hcs (.lexeme hl hend (offset + seg.length)) rfl
      rwa [hcs, lexemes_of_spells hl hend, ← hcs]
    · have hsecond := item hcs
        (.secondPoint hne hds hfs (offset + (ds ++ '.' :: fs ++ ['.']).length)) rfl
      rwa [hcs, lexemes_of_secondPoint hne hds hfs, ← hcs]

/-- A text is scanned in one way only. -/
theorem Scans.eq_lexemes {offset : Int} {cs : List Char} {located : List Located}
    (h : Scans offset cs located) : located = lexemes offset cs := by
  induction h with
  | nil offset =>
    rw [lexemes]
  | space hc h ih => rw [lexemes_of_isSpace hc, ih]
  | @item offset seg rest x located hx hoffset h ih =>
    cases hx with
    | lexeme hl hend o =>
      obtain rfl : o = offset + seg.length := hoffset
      rw [lexemes_of_spells hl hend, ih]
    | invalid hc o =>
      obtain rfl : o = offset + 1 := hoffset
      rw [List.singleton_append, lexemes_of_invalid hc, ih]
    | @secondPoint ds fs hne hds hfs o =>
      obtain rfl : o = offset + (ds ++ '.' :: fs ++ ['.']).length := hoffset
      rw [lexemes_of_secondPoint hne hds hfs, ih]

/-- A text is white space and lexemes, each of them as long as it can be. -/
inductive Splits : List Char → List Lexeme → Prop where
  | nil : Splits [] []
  | space {c : Char} {cs : List Char} {ls : List Lexeme} (hc : isSpace c = true)
      (h : Splits cs ls) : Splits (c :: cs) ls
  | lexeme {seg rest : List Char} {l : Lexeme} {ls : List Lexeme} (hl : Spells seg l)
      (hend : l.EndsBefore rest) (h : Splits rest ls) : Splits (seg ++ rest) (l :: ls)

theorem splits_nil_iff {cs : List Char} : Splits cs [] ↔ isBlank cs = true := by
  constructor
  · intro h
    generalize hls : ([] : List Lexeme) = ls at h
    induction h with
    | nil => rfl
    | space hc h ih => simpa [isBlank, hc] using ih hls
    | lexeme => cases hls
  · intro h
    induction cs with
    | nil => exact .nil
    | cons c cs ih =>
      obtain ⟨hc, hcs⟩ : isSpace c = true ∧ isBlank cs = true := by simpa [isBlank] using h
      exact .space hc (ih hcs)

theorem Splits.map_lexemes {cs : List Char} {ls : List Lexeme} (h : Splits cs ls) (offset : Int) :
    (lexemes offset cs).map Located.lexeme = ls := by
  induction h generalizing offset with
  | nil =>
    rw [lexemes]
    rfl
  | space hc h ih => rw [lexemes_of_isSpace hc, ih]
  | lexeme hl hend h ih => rw [lexemes_of_spells hl hend, List.map_cons, ih]

theorem Splits.unique {cs : List Char} {ls ks : List Lexeme} (h : Splits cs ls) (k : Splits cs ks) :
    ls = ks := by
  rw [← h.map_lexemes 0, k.map_lexemes 0]

theorem Scans.splits {offset : Int} {cs : List Char} {located : List Located}
    (h : Scans offset cs located) (hfault : ∀ f o, ⟨.fault f, o⟩ ∉ located) :
    Splits cs (located.map Located.lexeme) := by
  induction h with
  | nil => exact .nil
  | space hc h ih => exact .space hc (ih hfault)
  | item hx hoffset h ih =>
    have hrest := ih fun f o hmem => hfault f o (List.mem_cons_of_mem _ hmem)
    cases hx with
    | lexeme hl hend o => exact .lexeme hl hend hrest
    | invalid => exact absurd List.mem_cons_self (hfault _ _)
    | secondPoint => exact absurd List.mem_cons_self (hfault _ _)

/-! ## Where a text may be continued -/

section Boundary

variable {rest us vs : List Char} {ls ks : List Lexeme} {l : Lexeme}

/-- What may follow a number or a name. -/
def Boundary (rest : List Char) : Prop :=
  ∀ c ∈ rest.head?, isAlphanumeric c = false ∧ c ≠ '.'

theorem boundary_nil : Boundary [] := by
  simp [Boundary]

theorem boundary_cons {c : Char} (h : isAlphanumeric c = false) (hpoint : c ≠ '.')
    (cs : List Char) : Boundary (c :: cs) := by
  intro d hd
  obtain rfl : c = d := by simpa using hd
  exact ⟨h, hpoint⟩

theorem isAlphanumeric_of_isDigit {c : Char} (h : c.isDigit = true) : isAlphanumeric c = true := by
  have key : ∀ n ≤ 57, 48 ≤ n → numericRuns.contains n = true := by decide +kernel
  have hnumeric := key _ (toNat_of_isDigit h).2 (toNat_of_isDigit h).1
  simp [isAlphanumeric, isNumeric, hnumeric]

theorem Boundary.endsBefore (h : Boundary rest) (l : Lexeme) : l.EndsBefore rest := by
  cases l with
  | number x =>
    intro c hc
    refine ⟨?_, (h c hc).2⟩
    rw [← Bool.not_eq_true]
    intro hdigit
    exact Bool.false_ne_true ((h c hc).1.symm.trans (isAlphanumeric_of_isDigit hdigit))
  | identifier name => exact fun c hc => (h c hc).1
  | _ => trivial

theorem exists_cons_of_isIdentifier {name : String} (h : isIdentifier name = true) :
    ∃ c cs, name.toList = c :: cs ∧ isLetter c = true ∧ ∀ d ∈ cs, isAlphanumeric d := by
  unfold isIdentifier at h
  split at h
  · cases h
  · rename_i c cs hname
    obtain ⟨hc, hall⟩ : isLetter c = true ∧ (c :: cs).all isAlphanumeric = true := by
      simpa only [Bool.and_eq_true] using h
    exact ⟨c, cs, hname, hc, fun d hd => List.all_eq_true.mp hall d (List.mem_cons_of_mem _ hd)⟩

theorem spells_of_isIdentifier {name : String} (h : isIdentifier name = true) :
    Spells name.toList (.identifier name) := by
  obtain ⟨c, cs, hname, hc, hcs⟩ := exists_cons_of_isIdentifier h
  have hspells := Spells.identifier hc hcs
  rwa [← hname, String.ofList_toList] at hspells

theorem Splits.operator (op : Operator) (h : Splits rest ls) :
    Splits (op.symbol :: rest) (.operator op :: ls) :=
  .lexeme (.operator op) trivial h

theorem Lexeme.EndsBefore.of_append (h : l.EndsBefore (us ++ vs)) :
    l.EndsBefore us := by
  rcases us with _ | ⟨u, us⟩
  · cases l <;> simp [Lexeme.EndsBefore]
  · cases l <;> exact h

/-- A lexeme before `us` still ends there if `us` is continued by what may follow any lexeme. -/
theorem Lexeme.EndsBefore.append (h : l.EndsBefore us) (hvs : Boundary vs) :
    l.EndsBefore (us ++ vs) := by
  rcases us with _ | ⟨u, us⟩
  · exact hvs.endsBefore l
  · cases l <;> exact h

theorem Splits.append (h : Splits us ls) (hvs : Boundary vs) (k : Splits vs ks) :
    Splits (us ++ vs) (ls ++ ks) := by
  induction h with
  | nil => exact k
  | space hc h ih => exact .space hc ih
  | lexeme hl hend h ih =>
    rw [List.append_assoc]
    exact .lexeme hl (hend.append hvs) ih

end Boundary

end Calculator
