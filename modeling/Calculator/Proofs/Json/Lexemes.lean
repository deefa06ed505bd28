import Calculator.Json.Lexeme
import Calculator.Json.Write
import Calculator.Proofs.Number.Scientific
import Calculator.Proofs.Text.Encoding

/-!
# The lexemes of JSON documents

Every number, string and word that is written is read to its end.  Only what follows a number is
restricted, since it must not carry the number on.

## Main definitions

* `Json.Boundary rest`: what may follow a number
* `Json.structural`: the characters that stand between numbers and words

## Main results

* `Json.number?_append`: a number is read to its end
* `Json.readText_flatMap`: a string is read to its closing quote
* `Json.word?_append`: a word is found where it stands
* `Json.lexemes_of_leadingLexeme`, `Json.lexemes_of_isBlank`: the lexemes of a text, from its first
  one on
-/

namespace Calculator.Json

variable {ds fs rest cs : List Char} {c : Char} {position : Nat}

/-! ## Numbers -/

/-- What may follow a number. -/
def Boundary (rest : List Char) : Prop :=
  ∀ c ∈ rest.head?, c.isDigit = false ∧ c ≠ '.' ∧ c ≠ 'e' ∧ c ≠ 'E'

theorem wholeDigits_append (hds : IsWhole ds) (hrest : ∀ c ∈ rest.head?, c.isDigit = false) :
    wholeDigits (ds ++ rest) = ds := by
  obtain ⟨c, cs, rfl⟩ := List.exists_cons_of_ne_nil hds.ne_nil
  have htake := (takeWhile_append_of_head? hds.isDigit hrest).1
  rw [List.cons_append] at htake ⊢
  -- after a zero the reader stops, and nothing is lost since the zero stands alone
  by_cases hc : c = '0'
  · subst hc
    rw [hds.eq_zero rfl]
    rfl
  · rw [wholeDigits]
    · exact htake
    · rintro ds hcons
      exact hc (List.cons.inj hcons).1

theorem fractionDigits_append (hfs : ∀ c ∈ fs, c.isDigit = true)
    (hrest : ∀ c ∈ rest.head?, c.isDigit = false ∧ c ≠ '.') :
    fractionDigits (fractionText fs ++ rest) = fs := by
  rw [fractionText]
  split
  · rename_i hnil
    subst hnil
    rw [List.nil_append, fractionDigits]
    rintro ds rfl
    exact (hrest '.' rfl).2 rfl
  · exact (takeWhile_append_of_head? hfs fun c hc => (hrest c hc).1).1

theorem exponent?_eq_none (hrest : ∀ c ∈ rest.head?, c ≠ 'e' ∧ c ≠ 'E') :
    Numeral.exponent? rest = none := by
  cases rest with
  | nil => rfl
  | cons c cs =>
    obtain ⟨he, hE⟩ := hrest c rfl
    rw [Numeral.exponent?, decide_eq_false he, decide_eq_false hE]
    rfl

theorem exponent?_exponentText (e : Int) (hrest : ∀ c ∈ rest.head?, c.isDigit = false) :
    Numeral.exponent? (Decimal.exponentText e ++ rest) =
      some (e, (Decimal.exponentText e).length) := by
  have hdigit : ∀ c ∈ Decimal.padDigits 2 (Decimal.digits e.natAbs), c.isDigit = true :=
    fun c hc => Decimal.isDigit_of_mem_padDigits hc
  have hvalue : Numeral.digitsValue (Decimal.padDigits 2 (Decimal.digits e.natAbs)) = e.natAbs := by
    rw [Decimal.digitsValue_padDigits, digitsValue_digits]
  have hne : Decimal.padDigits 2 (Decimal.digits e.natAbs) ≠ [] :=
    List.append_ne_nil_of_right_ne_nil _ Nat.toDigits_ne_nil
  rw [Decimal.exponentText]
  generalize Decimal.padDigits 2 (Decimal.digits e.natAbs) = es at hdigit hvalue hne
  have htake := (takeWhile_append_of_head? hdigit hrest).1
  -- the sign is read as it is written
  by_cases he : e < 0
  · rw [if_pos he]
    show (if (es ++ rest).takeWhile Char.isDigit = [] then none else
      some (-((Numeral.digitsValue ((es ++ rest).takeWhile Char.isDigit) : Nat) : Int),
        ((es ++ rest).takeWhile Char.isDigit).length + 2)) = _
    rw [htake, if_neg hne, hvalue]
    have habs : -(e.natAbs : Int) = e := by omega
    rw [habs]
    rfl
  · rw [if_neg he]
    show (if (es ++ rest).takeWhile Char.isDigit = [] then none else
      some (((Numeral.digitsValue ((es ++ rest).takeWhile Char.isDigit) : Nat) : Int),
        ((es ++ rest).takeWhile Char.isDigit).length + 2)) = _
    rw [htake, if_neg hne, hvalue]
    have habs : (e.natAbs : Int) = e := by omega
    rw [habs]
    rfl

theorem exponent?_append (e : Option Int) (hrest : Boundary rest) :
    Numeral.exponent? (exponentPart e ++ rest) = e.map fun n => (n, (exponentPart e).length) := by
  cases e with
  | none => exact exponent?_eq_none fun c hc => (hrest c hc).2.2
  | some e => exact exponent?_exponentText e fun c hc => (hrest c hc).1

/-- A minus sign, if there is one. -/
def minus (negative : Bool) : List Char :=
  if negative then ['-'] else []

theorem boundary_exponentPart (e : Option Int) (hrest : Boundary rest) :
    ∀ c ∈ (exponentPart e ++ rest).head?, c.isDigit = false ∧ c ≠ '.' := by
  cases e with
  | none =>
    intro c hc
    exact ⟨(hrest c hc).1, (hrest c hc).2.1⟩
  | some e =>
    rintro c ⟨⟩
    decide

theorem not_isDigit_fractionText (fs : List Char)
    (hrest : ∀ c ∈ rest.head?, c.isDigit = false ∧ c ≠ '.') :
    ∀ c ∈ (fractionText fs ++ rest).head?, c.isDigit = false := by
  rw [fractionText]
  split
  · intro c hc
    exact (hrest c hc).1
  · rintro c ⟨⟩
    decide

/-- The lexeme that the parts of a number write. -/
def numberLexeme (negative : Bool) (ds fs : List Char) (e : Option Int) : Lexeme :=
  if fs = [] ∧ e = none then
    if maxDigits < ds.length then .oversized ds.length
    else .scalar (.integer
      (if negative then -(Numeral.digitsValue ds : Int) else Numeral.digitsValue ds))
  else .scalar (.real (Decimal.toFloat negative
    ⟨Numeral.digitsValue (ds ++ fs), e.getD 0 - (fs.length : Int)⟩))

/-- **A number** is read to its end. -/
theorem number?_append (negative : Bool) (hds : IsWhole ds) (hfs : ∀ c ∈ fs, c.isDigit = true)
    (e : Option Int) (hrest : Boundary rest) :
    number? (minus negative ++ (ds ++ (fractionText fs ++ (exponentPart e ++ rest)))) =
      some (numberLexeme negative ds fs e,
        (minus negative ++ (ds ++ (fractionText fs ++ exponentPart e))).length) := by
  have hbody := boundary_exponentPart e hrest
  have hwhole := wholeDigits_append hds (not_isDigit_fractionText fs hbody)
  have hfraction := fractionDigits_append hfs hbody
  have hexponent := exponent?_append e hrest
  have hlength : (if fs = [] then 0 else fs.length + 1) = (fractionText fs).length := by
    rw [fractionText]
    split <;> rfl
  generalize htail : fractionText fs ++ (exponentPart e ++ rest) = tail at hwhole hfraction
  have hdrop : tail.drop (fractionText fs).length = exponentPart e ++ rest := by
    rw [← htail, List.drop_left]
  -- the sign is taken off first
  have hsign : (minus negative ++ (ds ++ tail)).head? = some '-' ↔ negative = true := by
    obtain ⟨c, cs, rfl⟩ := List.exists_cons_of_ne_nil hds.ne_nil
    cases negative with
    | true => simp [minus]
    | false =>
      have hc : c ≠ '-' := ne_of_isDigit (hds.isDigit c List.mem_cons_self) rfl
      simp [minus, hc]
  have hunsigned :
      (if (minus negative ++ (ds ++ tail)).head? = some '-'
        then (minus negative ++ (ds ++ tail)).drop 1
        else minus negative ++ (ds ++ tail)) = ds ++ tail := by
    simp only [hsign]
    cases negative <;> rfl
  have hsize : (if negative = true then 1 else 0) + ds.length + (fractionText fs).length +
      ((e.map fun n => (n, (exponentPart e).length)).map (·.2)).getD 0 =
      (minus negative ++ (ds ++ (fractionText fs ++ exponentPart e))).length := by
    cases negative <;> cases e <;> simp [minus, exponentPart] <;> omega
  have hvalue : (((e.map fun n => (n, (exponentPart e).length)).map (·.1)).getD 0) = e.getD 0 := by
    cases e <;> rfl
  -- the reader takes the parts off one after the other
  simp only [number?, hunsigned, hwhole, if_neg hds.ne_nil, List.drop_left, hfraction, hlength,
    hdrop, hexponent]
  simp only [hsign, hsize, hvalue, Bool.decide_eq_true, Option.isNone_map,
    Bool.and_eq_true, decide_eq_true_eq, Option.isNone_iff_eq_none, numberLexeme]
  split
  · split <;> rfl
  · rfl

/-! ## Strings -/

theorem hexValue?_hexDigit (n : Nat) : hexValue? (Quoted.hexDigit n) = some (n % 16) := by
  have key : ∀ d < 16, hexValue? (Nat.digitChar d) = some d := by decide
  exact key (n % 16) (Nat.mod_lt n (by decide))

theorem hexWord?_hexDigits {n : Nat} (hn : n < 0x10000) (hrest : rest ≠ []) :
    hexWord? (Quoted.hexDigits 4 n ++ rest) = some n := by
  obtain ⟨c, cs, rfl⟩ := List.exists_cons_of_ne_nil hrest
  have hvalue : ((n / 16 / 16 / 16 % 16 * 16 + n / 16 / 16 % 16) * 16 + n / 16 % 16) * 16 + n % 16 =
      n := by omega
  simp only [Quoted.hexDigits, List.nil_append, List.cons_append, hexWord?, hexValue?_hexDigit,
    Option.bind_eq_bind, Option.bind_some, Option.pure_def, hvalue]

theorem escape_short {n : Nat} (hu : c ≠ 'u') (h : shortEscape? c = some n) :
    escape (c :: rest) = .ok (n, 1) := by
  rw [escape]
  · rw [h]
  · exact hu

/-- An escape that is not the first half of a surrogate pair. -/
theorem escape_unicode {n : Nat} (hn : n < 0x10000) (hhalf : ¬ (0xd800 ≤ n ∧ n < 0xdc00))
    (hrest : rest ≠ []) : escape ('u' :: (Quoted.hexDigits 4 n ++ rest)) = .ok (n, 5) := by
  rw [escape, hexWord?_hexDigits hn hrest]
  exact if_neg hhalf

theorem lowHalf?_unicodeEscape {n : Nat} (hn : 0xdc00 ≤ n) (hn' : n < 0xe000)
    (hrest : rest ≠ []) : lowHalf? (unicodeEscape n ++ rest) = .ok (some n) := by
  -- the reader asks for a character after the four digits
  have hlength : ¬ (Quoted.hexDigits 4 n ++ rest).length < 5 := by
    have hpos := List.length_pos_iff.mpr hrest
    simp [Quoted.hexDigits]
    omega
  rw [unicodeEscape, List.cons_append, List.cons_append, lowHalf?, if_neg hlength,
    hexWord?_hexDigits (by omega) hrest]
  exact congrArg Except.ok (if_pos ⟨hn, hn'⟩)

/-- The two halves of a surrogate pair. -/
theorem escape_pair {n : Nat} (hn : 0x10000 ≤ n) (hn' : n < 0x110000) (hrest : rest ≠ []) :
    escape ('u' :: (Quoted.hexDigits 4 (0xd800 + (n - 0x10000) / 0x400) ++
      (unicodeEscape (0xdc00 + (n - 0x10000) % 0x400) ++ rest))) = .ok (n, 11) := by
  have hvalue : 0x10000 + (0xd800 + (n - 0x10000) / 0x400 - 0xd800) * 0x400 +
      (0xdc00 + (n - 0x10000) % 0x400 - 0xdc00) = n := by omega
  have hdrop : (Quoted.hexDigits 4 (0xd800 + (n - 0x10000) / 0x400) ++
      (unicodeEscape (0xdc00 + (n - 0x10000) % 0x400) ++ rest)).drop 4 =
      unicodeEscape (0xdc00 + (n - 0x10000) % 0x400) ++ rest := rfl
  rw [escape, hexWord?_hexDigits (by omega) (by simp [unicodeEscape])]
  simp only [hdrop, lowHalf?_unicodeEscape (by omega : 0xdc00 ≤ 0xdc00 + (n - 0x10000) % 0x400)
    (by omega) hrest, hvalue]
  exact if_pos (by omega)

variable {opening : Nat} {read s : List Nat} {charset : Charset}

theorem readText_quote :
    readText opening position read ('"' :: rest) = (.text read.reverse, position + 1) := by
  rw [readText]
  rfl

theorem readText_char (hquote : c ≠ '"') (hbackslash : c ≠ '\\') (hc : 0x20 ≤ c.toNat) :
    readText opening position read (c :: rest) =
      readText opening (position + 1) (c.toNat :: read) rest := by
  rw [readText, if_neg hquote, if_neg hbackslash, if_neg (Nat.not_lt.mpr hc)]

theorem readText_escape {n : Nat} (hcs : cs ≠ []) (h : escape (cs ++ rest) = .ok (n, cs.length)) :
    readText opening position read ('\\' :: (cs ++ rest)) =
      readText opening (position + 1 + cs.length) (n :: read) rest := by
  rw [readText, if_neg (by decide), if_pos rfl, if_neg (List.append_ne_nil_of_left_ne_nil hcs _), h]
  simp only [List.drop_left]

/-- The ways in which a character of a string is written: by a letter that stands for it, by its
number, as itself, or by the numbers of two halves. -/
theorem escaped_cases {n : Nat} (motive : List Char → Prop) (hn : n.isValidChar)
    (short : ∀ c, c ≠ 'u' → c ≠ '\r' → shortEscape? c = some n → motive ['\\', c])
    (number : n < 0x10000 → ¬ (0xd800 ≤ n ∧ n < 0xdc00) → motive (unicodeEscape n))
    (itself : n ≠ 34 → n ≠ 92 → 0x20 ≤ n → motive [Char.ofNat n])
    (pair : 0x10000 ≤ n → n < 0x110000 →
      motive (unicodeEscape (0xd800 + (n - 0x10000) / 0x400) ++
        unicodeEscape (0xdc00 + (n - 0x10000) % 0x400))) :
    motive (escaped charset n) := by
  have hvalid : n < 0xd800 ∨ 0xdfff < n ∧ n < 0x110000 := hn
  rw [escaped]
  by_cases h34 : n = 34 ∨ n = 92
  · rw [if_pos h34]
    rcases h34 with rfl | rfl <;> exact short _ (by decide) (by decide) rfl
  rw [if_neg h34]
  by_cases h8 : n = 8
  · rw [if_pos h8]
    exact short 'b' (by decide) (by decide) (h8 ▸ rfl)
  rw [if_neg h8]
  by_cases h9 : n = 9
  · rw [if_pos h9]
    exact short 't' (by decide) (by decide) (h9 ▸ rfl)
  rw [if_neg h9]
  by_cases h10 : n = 10
  · rw [if_pos h10]
    exact short 'n' (by decide) (by decide) (h10 ▸ rfl)
  rw [if_neg h10]
  by_cases h12 : n = 12
  · rw [if_pos h12]
    exact short 'f' (by decide) (by decide) (h12 ▸ rfl)
  rw [if_neg h12]
  by_cases h13 : n = 13
  · rw [if_pos h13]
    exact short 'r' (by decide) (by decide) (h13 ▸ rfl)
  rw [if_neg h13]
  -- the letters are used up
  split
  · exact number (by omega) (by omega)
  · split
    · rw [not_or] at h34
      exact itself h34.1 h34.2 (by omega)
    · split
      · exact number (by omega) (by omega)
      · exact pair (by omega) (by omega)

/-- **A character of a string** is read back, however it is written. -/
theorem readText_escaped {n : Nat} (hn : n.isValidChar) (hrest : rest ≠ []) :
    readText opening position read (escaped charset n ++ rest) =
      readText opening (position + (escaped charset n).length) (n :: read) rest := by
  apply escaped_cases (fun seg => readText opening position read (seg ++ rest) =
    readText opening (position + seg.length) (n :: read) rest) hn
  · intro c hu _ h
    exact readText_escape (List.cons_ne_nil c []) (escape_short hu h)
  · intro hsmall hhalf
    exact readText_escape (List.cons_ne_nil _ _) (escape_unicode hsmall hhalf hrest)
  · intro hquote hbackslash hplain
    have hnat := toNat_ofNat hn
    rw [List.singleton_append, readText_char, hnat]
    · rfl
    · intro heq
      rw [heq] at hnat
      exact hquote hnat.symm
    · intro heq
      rw [heq] at hnat
      exact hbackslash hnat.symm
    · rwa [hnat]
  · intro hlarge hle
    have hpair := escape_pair hlarge hle hrest
    rw [← List.append_assoc, ← List.cons_append] at hpair
    exact readText_escape (List.cons_ne_nil _ _) hpair

/-- **A string** is read to its closing quote. -/
theorem readText_flatMap (hs : ∀ n ∈ s, n.isValidChar) :
    readText opening position read (s.flatMap (escaped charset) ++ '"' :: rest) =
      (.text (read.reverse ++ s), position + (s.flatMap (escaped charset)).length + 1) := by
  induction s generalizing position read with
  | nil =>
    rw [List.flatMap_nil, List.nil_append, readText_quote, List.append_nil]
    rfl
  | cons n s ih =>
    rw [List.forall_mem_cons] at hs
    rw [List.flatMap_cons, List.append_assoc,
      readText_escaped hs.1 (List.append_ne_nil_of_right_ne_nil _ (List.cons_ne_nil _ _)), ih hs.2,
      List.reverse_cons, List.append_assoc, List.length_append, Nat.add_assoc, Nat.add_assoc,
      Nat.add_assoc]
    rfl

/-! ## Words -/

theorem word?_append {word : String × Json} (h : word ∈ words) :
    word? (word.1.toList ++ rest) = some (.scalar word.2, word.1.length) := by
  simp only [words, List.mem_cons, List.not_mem_nil, or_false] at h
  rcases h with rfl | rfl | rfl | rfl | rfl | rfl <;> rfl

/-- No word begins like a number. -/
theorem word?_of_isDigit (negative : Bool) (hc : c.isDigit = true) :
    word? (minus negative ++ c :: rest) = none := by
  have hne (d : Char) (hd : d.isDigit = false) : d ≠ c := fun h => by simp [h, hc] at hd
  rw [word?, Option.map_eq_none_iff, List.find?_eq_none]
  cases negative with
  | false => simp [words, minus, hne]
  | true => simp [words, minus, hne]

/-! ## Lexemes -/

theorem lexemes_of_leadingLexeme {l : Lexeme}
    (h : leadingLexeme position c (cs ++ rest) = (some l, position + (c :: cs).length)) :
    lexemes position (c :: cs ++ rest) =
      (l, position) :: lexemes (position + (c :: cs).length) rest := by
  -- the scan goes on where the lexeme ends
  have hdrop : (cs ++ rest).drop (position + (c :: cs).length - position - 1) = rest := by
    rw [Nat.add_sub_cancel_left, List.length_cons, Nat.add_sub_cancel, List.drop_left]
  rw [List.cons_append, lexemes, h]
  simp only [hdrop]

theorem lexemes_of_isBlank (hc : isBlank c = true) :
    lexemes position (c :: rest) = lexemes (position + 1) rest := by
  have hleading : leadingLexeme position c rest = (none, position + 1) := by
    unfold leadingLexeme
    exact if_pos hc
  rw [lexemes, hleading]
  simp only [Nat.add_sub_cancel_left, Nat.sub_self, List.drop_zero]

/-- The characters with which neither a word nor a number begins or goes on. -/
def structural : List Char :=
  [' ', '\t', '\n', '\r', '\x7b', '\x7d', '[', ']', ':', ',', '"']

/-- Structural characters may follow a number. -/
theorem boundary_cons (hc : c ∈ structural) : Boundary (c :: rest) := by
  have key : ∀ c ∈ structural, c.isDigit = false ∧ c ≠ '.' ∧ c ≠ 'e' ∧ c ≠ 'E' := by
    simp [structural]
  rintro d ⟨⟩
  exact key c hc

/-- Other characters begin a word or a number, or nothing. -/
theorem leadingLexeme_of_not_mem (hc : c ∉ structural) :
    leadingLexeme position c cs =
      match (word? (c :: cs)).or (number? (c :: cs)) with
      | some (lexeme, length) => (some lexeme, position + length)
      | none => (some .junk, position + 1) := by
  have hblank : isBlank c = false := by
    rw [Bool.eq_false_iff]
    intro hblank
    simp_all [structural, isBlank]
  unfold leadingLexeme
  rw [hblank, if_neg Bool.false_ne_true]
  split
  all_goals first | rfl | exact absurd (by decide) hc

end Calculator.Json
