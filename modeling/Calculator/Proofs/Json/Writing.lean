import Calculator.Proofs.Json.Grammar
import Calculator.Proofs.Json.Lexemes
import Calculator.Proofs.Json.Members

/-!
# Reading what was written

The document of a value is split into lexemes which derive as that value, so the reader gives the
value back, doubles bit for bit.  This holds for both sets of characters that documents are written
in.

## Main definitions

* `Json.Writes after seg ls`: the characters `seg` are the lexemes `ls` wherever they stand
* `Json.Writable v`: nothing is lost when the value `v` is written

## Main results

* `Json.Writes.append`: texts that stand one after the other
* `Json.writes_real`: a double is one lexeme, the special values among them
* `Json.isWritten_of_writable`: every document derives as its value
* `Json.read_append`, `Json.read_chars`: what was written is read back
-/

namespace Calculator.Json

/-! ## Texts and their lexemes -/

/-- The characters `seg` are the lexemes `ls` wherever they stand, provided that what follows them
is as `after` says.  They have no carriage return, so lines end in the same way everywhere. -/
structure Writes (after : List Char → Prop) (seg : List Char) (ls : List Lexeme) : Prop where
  lexemes_append : ∀ {rest : List Char} (position : Nat), after rest →
    (lexemes position (seg ++ rest)).map Prod.fst =
      ls ++ (lexemes (position + seg.length) rest).map Prod.fst
  not_mem : '\r' ∉ seg

/-- What follows may be anything. -/
def Anything (_ : List Char) : Prop :=
  True

variable {after between : List Char → Prop} {seg seg' cs ds fs : List Char} {c : Char}
  {ls ls' : List Lexeme} {l : Lexeme} {s : CodePoints} {charset : Charset}

theorem writes_nil : Writes after [] [] :=
  ⟨fun _ _ => rfl, List.not_mem_nil⟩

/-- **Texts one after the other**, if the second may follow the first. -/
theorem Writes.append (h : Writes between seg ls) (h' : Writes after seg' ls')
    (hbetween : ∀ rest, after rest → between (seg' ++ rest)) :
    Writes after (seg ++ seg') (ls ++ ls') := by
  refine ⟨?_, ?_⟩
  · intro rest position hrest
    rw [List.append_assoc, h.lexemes_append position (hbetween rest hrest),
      h'.lexemes_append _ hrest, List.append_assoc, List.length_append, Nat.add_assoc]
  · rw [List.mem_append, not_or]
    exact ⟨h.not_mem, h'.not_mem⟩

/-- After what nothing can carry on, any text can stand. -/
theorem Writes.append_of_anything (h : Writes Anything seg ls) (h' : Writes after seg' ls') :
    Writes after (seg ++ seg') (ls ++ ls') :=
  h.append h' fun _ _ => trivial

theorem Writes.of_anything (h : Writes Anything seg ls) : Writes after seg ls :=
  ⟨fun position _ => h.lexemes_append position trivial, h.not_mem⟩

theorem writes_of_leadingLexeme
    (h : ∀ rest position, after rest →
      leadingLexeme position c (cs ++ rest) = (some l, position + (c :: cs).length))
    (hreturn : '\r' ∉ c :: cs) : Writes after (c :: cs) [l] := by
  refine ⟨?_, hreturn⟩
  intro rest position hrest
  rw [lexemes_of_leadingLexeme (h rest position hrest)]
  rfl

/-! ## Punctuation and white space -/

theorem writes_openObject : Writes Anything ['\x7b'] [.openObject] :=
  writes_of_leadingLexeme (fun _ _ _ => rfl) (by decide)

theorem writes_closeObject : Writes Anything ['\x7d'] [.closeObject] :=
  writes_of_leadingLexeme (fun _ _ _ => rfl) (by decide)

theorem writes_openArray : Writes Anything ['['] [.openArray] :=
  writes_of_leadingLexeme (fun _ _ _ => rfl) (by decide)

theorem writes_closeArray : Writes Anything [']'] [.closeArray] :=
  writes_of_leadingLexeme (fun _ _ _ => rfl) (by decide)

theorem writes_blank (hc : isBlank c = true) (hreturn : c ≠ '\r') : Writes Anything [c] [] := by
  refine ⟨?_, by simpa using hreturn.symm⟩
  intro rest position _
  rw [List.singleton_append, lexemes_of_isBlank hc]
  rfl

theorem writes_colon : Writes Anything [':', ' '] [.colon] := by
  have hcolon : Writes Anything [':'] [.colon] :=
    writes_of_leadingLexeme (fun _ _ _ => rfl) (by decide)
  have hblank : Writes Anything [' '] [] := writes_blank rfl (by decide)
  exact hcolon.append_of_anything hblank

theorem writes_newLine (level : Nat) : Writes Anything (newLine level) [] := by
  have hspaces (n : Nat) : Writes Anything (List.replicate n ' ') [] := by
    induction n with
    | zero => exact writes_nil
    | succ n ih => exact (writes_blank rfl (by decide)).append_of_anything ih
  exact (writes_blank rfl (by decide)).append_of_anything (hspaces (2 * level))

theorem writes_comma (level : Nat) : Writes Anything (',' :: newLine level) [.comma] := by
  have hcomma : Writes Anything [','] [.comma] :=
    writes_of_leadingLexeme (fun _ _ _ => rfl) (by decide)
  exact hcomma.append_of_anything (writes_newLine level)

/-! ## Strings -/

theorem hexDigit_ne_return (n : Nat) : Quoted.hexDigit n ≠ '\r' := by
  have key : ∀ d < 16, Nat.digitChar d ≠ '\r' := by decide
  exact key (n % 16) (Nat.mod_lt n (by decide))

theorem return_not_mem_unicodeEscape (n : Nat) : '\r' ∉ unicodeEscape n := by
  simp [unicodeEscape, Quoted.hexDigits, (hexDigit_ne_return _).symm]

theorem return_not_mem_escaped {n : Nat} (hn : n.isValidChar) : '\r' ∉ escaped charset n := by
  apply escaped_cases ('\r' ∉ ·) hn
  · intro c _ hreturn _
    simp [hreturn.symm]
  · intro _ _
    exact return_not_mem_unicodeEscape n
  · intro _ _ hplain
    rw [List.mem_singleton]
    intro heq
    have hnat := toNat_ofNat hn
    rw [← heq] at hnat
    exact absurd (hnat ▸ hplain) (by decide)
  · intro _ _
    simp [return_not_mem_unicodeEscape]

/-- **A string** is one lexeme. -/
theorem writes_textChars (charset : Charset) (hs : ∀ n ∈ s, n.isValidChar) :
    Writes Anything (textChars charset s) [.text s] := by
  have htext : textChars charset s = '"' :: (s.flatMap (escaped charset) ++ ['"']) := rfl
  rw [htext]
  apply writes_of_leadingLexeme
  · intro rest position _
    have hleading (cs : List Char) : leadingLexeme position '"' cs =
        (some (readText position (position + 1) [] cs).1,
          (readText position (position + 1) [] cs).2) := rfl
    rw [List.append_assoc, List.singleton_append, hleading, readText_flatMap hs, List.reverse_nil,
      List.nil_append]
    simp only [List.length_cons, List.length_append, List.length_nil]
    exact congrArg _ (by omega)
  · intro h
    have hbody : '\r' ∈ s.flatMap (escaped charset) := by simpa using h
    obtain ⟨n, hn, h⟩ := List.mem_flatMap.mp hbody
    exact return_not_mem_escaped (hs n hn) h

/-! ## Words and numbers -/

/-- A text that is found as a word or a number, whatever follows it, is one lexeme. -/
theorem writes_of_not_mem (hne : seg ≠ []) (hhead : ∀ c ∈ seg.head?, c ∉ structural)
    (hfound : ∀ rest, Boundary rest →
      (word? (seg ++ rest)).or (number? (seg ++ rest)) = some (l, seg.length))
    (hreturn : '\r' ∉ seg) : Writes Boundary seg [l] := by
  obtain ⟨c, cs, rfl⟩ := List.exists_cons_of_ne_nil hne
  refine writes_of_leadingLexeme ?_ hreturn
  intro rest position hrest
  have hfound := hfound rest hrest
  rw [List.cons_append] at hfound
  rw [leadingLexeme_of_not_mem (hhead c rfl), hfound]

/-- **A word** is one lexeme. -/
theorem writes_word {word : String × Json} (h : word ∈ words) :
    Writes Boundary word.1.toList [.scalar word.2] := by
  have hne : ∀ word ∈ words, word.1.toList ≠ [] := by decide
  have hreturn : ∀ word ∈ words, '\r' ∉ word.1.toList := by decide
  have hhead : ∀ word ∈ words, ∀ c ∈ word.1.toList.head?, c ∉ structural := by
    simp [words, structural]
  refine writes_of_not_mem (hne word h) (hhead word h) ?_ (hreturn word h)
  intro rest _
  rw [word?_append h, String.length_toList]
  rfl

theorem return_not_mem_of_isDigit (h : ∀ c ∈ cs, c.isDigit = true) : '\r' ∉ cs :=
  fun hmem => absurd (h _ hmem) (by decide)

theorem return_not_mem_number (negative : Bool) (hds : IsWhole ds)
    (hfs : ∀ c ∈ fs, c.isDigit = true) (e : Option Int) :
    '\r' ∉ minus negative ++ (ds ++ (fractionText fs ++ exponentPart e)) := by
  have hminus : '\r' ∉ minus negative := by cases negative <;> decide
  have hfraction : '\r' ∉ fractionText fs := by
    rw [fractionText]
    split
    · exact List.not_mem_nil
    · simpa using return_not_mem_of_isDigit hfs
  have hexponent : '\r' ∉ exponentPart e := by
    cases e with
    | none => exact List.not_mem_nil
    | some e =>
      have hdigits : '\r' ∉ Decimal.padDigits 2 (Decimal.digits e.natAbs) :=
        return_not_mem_of_isDigit fun c hc => Decimal.isDigit_of_mem_padDigits hc
      rw [exponentPart, Decimal.exponentText]
      split <;> simp [hdigits]
  simp only [List.mem_append, not_or]
  exact ⟨hminus, return_not_mem_of_isDigit hds.isDigit, hfraction, hexponent⟩

/-- **A number** is one lexeme. -/
theorem writes_number (negative : Bool) (hds : IsWhole ds) (hfs : ∀ c ∈ fs, c.isDigit = true)
    (e : Option Int) :
    Writes Boundary (minus negative ++ (ds ++ (fractionText fs ++ exponentPart e)))
      [numberLexeme negative ds fs e] := by
  obtain ⟨c, cs, hcs⟩ := List.exists_cons_of_ne_nil hds.ne_nil
  have hc : c.isDigit = true := hds.isDigit c (hcs ▸ List.mem_cons_self)
  have hne : ds ++ (fractionText fs ++ exponentPart e) ≠ [] :=
    List.append_ne_nil_of_left_ne_nil hds.ne_nil _
  refine writes_of_not_mem (List.append_ne_nil_of_right_ne_nil _ hne) ?_ ?_
    (return_not_mem_number negative hds hfs e)
  · have key : ∀ c ∈ structural, c.isDigit = false ∧ c ≠ '-' := by simp [structural]
    rw [hcs]
    cases negative with
    | false =>
      rintro d ⟨⟩ hd
      rw [(key c hd).1] at hc
      cases hc
    | true =>
      rintro d ⟨⟩ hd
      exact (key '-' hd).2 rfl
  · intro rest hrest
    have hnumber := number?_append negative hds hfs e hrest
    have hword : word? (minus negative ++ (ds ++ (fractionText fs ++ (exponentPart e ++ rest)))) =
        none := by
      rw [hcs]
      exact word?_of_isDigit negative hc
    simp only [List.append_assoc, hword, hnumber, Option.none_or]

theorem signText_eq (x : Float) : signText x = minus (isNegative x) := rfl

theorem writes_infinity {x : Float} (hinf : x.isInf = true) :
    Writes Boundary (signText x ++ documentStyle.infinity.toList) [.scalar (.real x)] := by
  have hx := toFloat_isNegative x
  rw [ofFloat_of_isInf hinf] at hx
  rw [signText_eq, ← hx]
  cases isNegative x with
  | false =>
    exact @writes_word ("Infinity", .real (Pattern.toFloat false Pattern.infinity))
      (by simp [words])
  | true =>
    exact @writes_word ("-Infinity", .real (Pattern.toFloat true Pattern.infinity))
      (by simp [words])

/-- A finite double is read back from the digits of its shortest decimal. -/
theorem writes_finite {x : Float} (hnan : x.isNaN = false) (hinf : x.isInf = false) :
    Writes Boundary (signText x ++ (Decimal.shortest (Pattern.ofFloat x)).scientific)
      [.scalar (.real x)] := by
  obtain ⟨ds, fs, e, htext, hds, hfs, hparts, hpattern⟩ :=
    Decimal.hasParts_scientific (Decimal.shortest (Pattern.ofFloat x))
  have hlexeme : numberLexeme (isNegative x) ds fs e = .scalar (.real x) := by
    have hreal : ¬ (fs = [] ∧ e = none) := fun h => hparts h.1 h.2
    rw [numberLexeme, if_neg hreal, Decimal.toFloat, hpattern,
      Decimal.pattern_shortest (Nat.le_of_lt (ofFloat_lt_infinity hnan hinf)), toFloat_isNegative]
  have hnumber := writes_number (isNegative x) hds hfs e
  rwa [hlexeme, ← List.append_assoc ds, ← htext] at hnumber

/-- **A double** is one lexeme: a number, or a word where it has no digits. -/
theorem writes_real (x : Float) :
    Writes Boundary (realText documentStyle x).toList [.scalar (.real x)] := by
  rw [realText]
  split
  · rename_i hnan
    rw [eq_nan_of_isNaN hnan]
    exact @writes_word ("NaN", _) (by simp [words])
  · rename_i hnan
    split
    · rename_i hinf
      rw [String.toList_append, String.toList_ofList]
      exact writes_infinity hinf
    · rename_i hinf
      rw [String.toList_ofList]
      exact writes_finite (by simpa using hnan) (by simpa using hinf)

theorem toList_toString_int (n : Int) :
    (toString n).toList = minus (n < 0) ++ Decimal.digits n.natAbs := by
  cases n with
  | ofNat n =>
    show (Nat.repr n).toList = _
    simp [minus, Nat.repr, Decimal.digits]
  | negSucc n =>
    show ("-" ++ Nat.repr (n + 1)).toList = _
    simp [minus, Nat.repr, Decimal.digits]

/-- **A whole number** that is not too long is written as its digits. -/
theorem writes_integer {n : Int} (hn : (Decimal.digits n.natAbs).length ≤ maxDigits) :
    Writes Boundary (toString n).toList [.scalar (.integer n)] := by
  have hvalue : (if decide (n < 0) = true then -(n.natAbs : Int) else n.natAbs) = n := by
    simp only [decide_eq_true_eq]
    omega
  have hlexeme : numberLexeme (n < 0) (Decimal.digits n.natAbs) [] none = .scalar (.integer n) := by
    rw [numberLexeme, if_pos ⟨rfl, rfl⟩, if_neg (Nat.not_lt.mpr hn), digitsValue_digits, hvalue]
  have hnumber := @writes_number _ [] (n < 0) (Decimal.isWhole_digits n.natAbs) (by simp) none
  rw [hlexeme] at hnumber
  rw [toList_toString_int]
  simpa [fractionText, exponentPart] using hnumber

/-! ## Values -/

/-- The values that are read back: whole numbers are not too long, strings hold characters only, and
no name stands twice in an object. -/
inductive Writable : Json → Prop
  | null : Writable .null
  | bool (b : Bool) : Writable (.bool b)
  | integer {n : Int} (h : (Decimal.digits n.natAbs).length ≤ maxDigits) : Writable (.integer n)
  | real (x : Float) : Writable (.real x)
  | text {s : CodePoints} (h : ∀ n ∈ s, n.isValidChar) : Writable (.text s)
  | array {items : List Json} (h : ∀ v ∈ items, Writable v) : Writable (.array items)
  | object {ms : List (CodePoints × Json)} (hnodup : (ms.map Prod.fst).Nodup)
      (hnames : ∀ m ∈ ms, ∀ n ∈ m.1, n.isValidChar) (h : ∀ m ∈ ms, Writable m.2) :
      Writable (.object ms)

theorem writable_text_ofString (s : String) : Writable (.text (.ofString s)) :=
  .text fun _ hn => CodePoints.isValidChar_of_mem_ofString hn

/-- An object whose names are strings is read back if no name stands twice in it. -/
theorem writable_ofStrings {ms : List (String × Json)} (hnodup : (ms.map Prod.fst).Nodup)
    (h : ∀ m ∈ ms, Writable m.2) :
    Writable (.object (ms.map fun m => (CodePoints.ofString m.1, m.2))) := by
  refine .object ?_ ?_ ?_
  · rw [List.map_map]
    have hnames := hnodup.map fun s t => @CodePoints.ofString_injective s t
    rwa [List.map_map] at hnames
  · intro m hm n hn
    obtain ⟨member, -, rfl⟩ := List.mem_map.mp hm
    exact CodePoints.isValidChar_of_mem_ofString hn
  · intro m hm
    obtain ⟨member, hmember, rfl⟩ := List.mem_map.mp hm
    exact h member hmember

/-- The document of a value derives as that value, at every level. -/
def IsWritten (charset : Charset) (v : Json) : Prop :=
  ∀ level, ∃ ls, Denotes ls (.value v) ∧ Writes Boundary (chars charset level v) ls

variable {v : Json} {vs : List Json} {name : CodePoints} {ms : List (CodePoints × Json)}

/-- The items of an array, the first one without a comma before it. -/
theorem exists_writes_items (hv : IsWritten charset v) (hvs : ∀ w ∈ vs, IsWritten charset w)
    (level : Nat) :
    ∃ ls, Denotes ls (.items (v :: vs)) ∧
      Writes Boundary (chars charset level v ++ itemChars charset level vs) ls := by
  induction vs generalizing v with
  | nil =>
    obtain ⟨ls, hls, hseg⟩ := hv level
    refine ⟨ls, .item hls, ?_⟩
    rwa [itemChars, List.append_nil]
  | cons w vs ih =>
    rw [List.forall_mem_cons] at hvs
    obtain ⟨ls, hls, hseg⟩ := hv level
    obtain ⟨ks, hks, hrest⟩ := ih hvs.1 hvs.2
    -- a value that ends with a number is ended by the comma after it
    refine ⟨ls ++ .comma :: ks, .items hls (List.cons_ne_nil _ _) hks, ?_⟩
    have htail := (writes_comma level).append_of_anything hrest
    have hitems := hseg.append htail fun rest _ => boundary_cons (by decide)
    rw [itemChars, List.append_assoc]
    exact hitems

/-- A member of an object. -/
theorem writes_member {level : Nat} (hname : ∀ n ∈ name, n.isValidChar)
    (h : Writes after (chars charset level v ++ cs) ls) :
    Writes after (textChars charset name ++ (':' :: ' ' :: (chars charset level v ++ cs)))
      (.text name :: .colon :: ls) :=
  (writes_textChars charset hname).append_of_anything (writes_colon.append_of_anything h)

/-- The members of an object, the first one without a comma before it. -/
theorem exists_writes_members (hname : ∀ n ∈ name, n.isValidChar) (hv : IsWritten charset v)
    (hnames : ∀ m ∈ ms, ∀ n ∈ m.1, n.isValidChar) (hms : ∀ m ∈ ms, IsWritten charset m.2)
    (level : Nat) :
    ∃ ls, Denotes ls (.members ((name, v) :: ms)) ∧
      Writes Boundary (textChars charset name ++ (':' :: ' ' ::
        (chars charset level v ++ memberChars charset level ms))) ls := by
  induction ms generalizing name v with
  | nil =>
    obtain ⟨ls, hls, hseg⟩ := hv level
    refine ⟨_, .member name hls, writes_member hname ?_⟩
    rwa [memberChars, List.append_nil]
  | cons m ms ih =>
    obtain ⟨other, w⟩ := m
    rw [List.forall_mem_cons] at hnames hms
    obtain ⟨ls, hls, hseg⟩ := hv level
    obtain ⟨ks, hks, hrest⟩ := ih hnames.1 hms.1 hnames.2 hms.2
    refine ⟨_, .members name hls (List.cons_ne_nil _ _) hks, writes_member hname ?_⟩
    have htail := (writes_comma level).append_of_anything hrest
    have hmembers := hseg.append htail fun rest _ => boundary_cons (by decide)
    rw [memberChars]
    simpa using hmembers

/-- **Every document** derives as its value. -/
theorem isWritten_of_writable (h : Writable v) : IsWritten charset v := by
  induction h with
  | null =>
    intro level
    exact ⟨_, .scalar _, @writes_word ("null", .null) (by simp [words])⟩
  | bool b =>
    intro level
    cases b with
    | false => exact ⟨_, .scalar _, @writes_word ("false", .bool false) (by simp [words])⟩
    | true => exact ⟨_, .scalar _, @writes_word ("true", .bool true) (by simp [words])⟩
  | integer h =>
    intro level
    exact ⟨_, .scalar _, writes_integer h⟩
  | real x =>
    intro level
    exact ⟨_, .scalar _, writes_real x⟩
  | text h =>
    intro level
    exact ⟨_, .text _, (writes_textChars charset h).of_anything⟩
  | @array items h ih =>
    intro level
    cases items with
    | nil =>
      have hempty := writes_openArray.append_of_anything writes_closeArray
      exact ⟨_, .array .noItems, hempty.of_anything⟩
    | cons v vs =>
      rw [List.forall_mem_cons] at ih
      obtain ⟨ls, hls, hitems⟩ := exists_writes_items ih.1 ih.2 (level + 1)
      have hopen := writes_openArray.append_of_anything (writes_newLine (level + 1))
      have hclose := (writes_newLine level).append_of_anything writes_closeArray
      have harray := hopen.append_of_anything
        (hitems.append hclose fun rest _ => boundary_cons (by decide))
      refine ⟨_, .array hls, ?_⟩
      rw [chars]
      simpa using harray.of_anything
  | @object ms hnodup hnames h ih =>
    intro level
    -- the reader keeps the last value of each name, so no member may be lost to a later one
    have hms : Json.members ms = ms := members_eq_self hnodup
    cases ms with
    | nil =>
      have hempty := writes_openObject.append_of_anything writes_closeObject
      exact ⟨_, .object .noMembers, hempty.of_anything⟩
    | cons m ms =>
      obtain ⟨name, v⟩ := m
      rw [List.forall_mem_cons] at hnames ih
      obtain ⟨ls, hls, hmembers⟩ := exists_writes_members hnames.1 ih.1 hnames.2 ih.2 (level + 1)
      have hopen := writes_openObject.append_of_anything (writes_newLine (level + 1))
      have hclose := (writes_newLine level).append_of_anything writes_closeObject
      have hobject := hopen.append_of_anything
        (hmembers.append hclose fun rest _ => boundary_cons (by decide))
      have hdenotes := Denotes.object hls
      rw [hms] at hdenotes
      refine ⟨_, hdenotes, ?_⟩
      rw [chars]
      simpa using hobject.of_anything

/-! ## Documents -/

theorem junk_not_mem_of_denotes {p : Phrase} (h : Denotes ls p) : .junk ∉ ls := by
  induction h <;> simp_all

/-- A byte order mark begins no value. -/
theorem head?_ne_byteOrderMark (h : Denotes ((lexemes 0 cs).map Prod.fst) (.value v)) :
    cs.head? ≠ some '\uFEFF' := by
  intro hmark
  obtain ⟨cs, rfl⟩ := List.head?_eq_some_iff.mp hmark
  have hword : word? ('\uFEFF' :: cs) = none := by simp [word?, words]
  have hnumber : number? ('\uFEFF' :: cs) = none := by
    simp [number?, wholeDigits]
  have hleading : leadingLexeme 0 '\uFEFF' cs = (some .junk, 1) := by
    rw [leadingLexeme_of_not_mem (by decide), hword, hnumber, Option.or_none]
  rw [lexemes, hleading] at h
  exact junk_not_mem_of_denotes h List.mem_cons_self

/-- White space has no lexemes. -/
theorem lexemes_of_forall_isBlank (h : ∀ c ∈ cs, isBlank c = true) (position : Nat) :
    lexemes position cs = [] := by
  induction cs generalizing position with
  | nil => rw [lexemes]
  | cons c cs ih =>
    rw [List.forall_mem_cons] at h
    rw [lexemes_of_isBlank h.1]
    exact ih h.2 (position + 1)

theorem boundary_of_forall_isBlank (h : ∀ c ∈ cs, isBlank c = true) : Boundary cs := by
  cases cs with
  | nil => rintro c ⟨⟩
  | cons c cs =>
    apply boundary_cons
    have hc := h c List.mem_cons_self
    simp only [isBlank, Bool.or_eq_true, decide_eq_true_eq] at hc
    rcases hc with ((rfl | rfl) | rfl) | rfl <;> simp [structural]

/-- **What was written is read back**, whatever white space follows it. -/
theorem read_append (h : Writable v) (hcs : ∀ c ∈ cs, isBlank c = true) :
    Json.read (chars charset 0 v ++ cs) = .ok v := by
  obtain ⟨ls, hls, hwrites⟩ := @isWritten_of_writable charset v h 0
  have hlexemes : (lexemes 0 (chars charset 0 v ++ cs)).map Prod.fst = ls := by
    rw [hwrites.lexemes_append 0 (boundary_of_forall_isBlank hcs), lexemes_of_forall_isBlank hcs,
      List.map_nil, List.append_nil]
  have hdenotes : Denotes ((lexemes 0 (chars charset 0 v ++ cs)).map Prod.fst) (.value v) :=
    hlexemes ▸ hls
  exact read_eq_ok_iff.mpr ⟨head?_ne_byteOrderMark hdenotes, hdenotes⟩

theorem read_chars (h : Writable v) : Json.read (chars charset 0 v) = .ok v := by
  have hread : Json.read (chars charset 0 v ++ []) = .ok v := read_append h (by simp)
  rwa [List.append_nil] at hread

/-- No document has a carriage return. -/
theorem return_not_mem_chars (h : Writable v) (level : Nat) : '\r' ∉ chars charset level v := by
  obtain ⟨ls, hls, hwrites⟩ := @isWritten_of_writable charset v h level
  exact hwrites.not_mem

end Calculator.Json
