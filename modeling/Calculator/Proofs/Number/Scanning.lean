import Calculator.Proofs.Number.Bits
import Calculator.Proofs.Number.Numeral
import Calculator.Proofs.Number.Rounding

/-!
# Scanning numerals

At a cursor the longest run of digits with at most one point is read, whatever stands there.  A run
with digits is a number, in whatever place the point stands, and no other run is one.  A second
point is noticed only where it stands right behind a run that has one.

## Main definitions

* `Numeral.IsRun cs`: digits with at most one point among them
* `Numeral.IsLongestRun raw cs`: the longest run at the beginning of a text
* `Numeral.rational raw`: the number that a run writes

## Main results

* `Numeral.isLongestRun_split`: the run that is split off is the longest one
* `Numeral.value_decimal`: the value of a run, whichever way it is written
* `scanNumber_longest`: what is read at a cursor, and where the cursor stands after it
-/

namespace Calculator

namespace Numeral

variable {cs raw rest run ds fs : List Char} {c : Char}

/-! ## Runs -/

/-- Digits with at most one point among them, or no character at all. -/
structure IsRun (cs : List Char) : Prop where
  isDigit_or_eq : ∀ c ∈ cs, c.isDigit = true ∨ c = '.'
  count_le_one : cs.count '.' ≤ 1

/-- The longest run among those at the beginning of a text. -/
structure IsLongestRun (raw cs : List Char) : Prop where
  begins : raw <+: cs
  isRun : IsRun raw
  longest : ∀ run, run <+: cs → IsRun run → run.length ≤ raw.length

/-- The number that a run writes: its digits over a power of ten for those behind the point. -/
def rational (raw : List Char) : ℚ :=
  digitsValue (raw.filter Char.isDigit) / 10 ^ (raw.dropWhile (· != '.')).tail.length

theorem IsRun.mono (h : IsRun run) (hle : raw <+: run) : IsRun raw :=
  ⟨fun c hc => h.isDigit_or_eq c (hle.subset hc),
    (hle.sublist.count_le '.').trans h.count_le_one⟩

theorem count_point_eq_zero (hds : ∀ c ∈ ds, c.isDigit = true) : ds.count '.' = 0 :=
  List.count_eq_zero.mpr fun hmem => absurd (hds '.' hmem) (by decide)

theorem isRun_whole (hds : ∀ c ∈ ds, c.isDigit = true) : IsRun ds := by
  refine ⟨fun c hc => .inl (hds c hc), ?_⟩
  rw [count_point_eq_zero hds]
  exact Nat.zero_le 1

theorem isRun_point (hds : ∀ c ∈ ds, c.isDigit = true) (hfs : ∀ c ∈ fs, c.isDigit = true) :
    IsRun (ds ++ '.' :: fs) := by
  refine ⟨fun c hc => ?_, ?_⟩
  · rcases List.mem_append.mp hc with hc | hc
    · exact .inl (hds c hc)
    · rcases List.mem_cons.mp hc with hc | hc
      · exact .inr hc
      · exact .inl (hfs c hc)
  · rw [List.count_append, List.count_cons_self, count_point_eq_zero hds, count_point_eq_zero hfs]

/-- A run goes on with a digit, and with a point if it has none. -/
theorem isRun_append_singleton_iff :
    IsRun (raw ++ [c]) ↔ IsRun raw ∧ (c.isDigit = true ∨ c = '.' ∧ '.' ∉ raw) := by
  constructor
  · intro h
    refine ⟨h.mono (List.prefix_append raw [c]), ?_⟩
    refine (h.isDigit_or_eq c (by simp)).imp_right fun hc => ⟨hc, ?_⟩
    have hcount := h.count_le_one
    rw [hc, List.count_append, List.count_singleton_self] at hcount
    exact List.count_eq_zero.mp (by omega)
  · rintro ⟨h, hc⟩
    refine ⟨fun d hd => ?_, ?_⟩
    · rcases List.mem_append.mp hd with hd | hd
      · exact h.isDigit_or_eq d hd
      · obtain rfl := List.mem_singleton.mp hd
        exact hc.imp_right And.left
    · rw [List.count_append]
      rcases hc with hc | ⟨rfl, hraw⟩
      · rw [count_point_eq_zero (List.forall_mem_singleton.mpr hc)]
        exact h.count_le_one
      · rw [List.count_eq_zero.mpr hraw, List.count_singleton_self]

/-- A run has no point, or one between two runs of digits. -/
theorem IsRun.cases (h : IsRun raw) :
    (∀ c ∈ raw, c.isDigit = true) ∨
      ∃ ds fs, raw = ds ++ '.' :: fs ∧ (∀ c ∈ ds, c.isDigit = true) ∧
        ∀ c ∈ fs, c.isDigit = true := by
  by_cases hpoint : '.' ∈ raw
  · obtain ⟨ds, fs, rfl, hds⟩ := List.eq_append_cons_of_mem hpoint
    have hcount := h.count_le_one
    rw [List.count_append, List.count_cons_self, List.count_eq_zero.mpr hds] at hcount
    have hfs : '.' ∉ fs := List.count_eq_zero.mp (by omega)
    refine .inr ⟨ds, fs, rfl, fun c hc => ?_, fun c hc => ?_⟩
    · exact (h.isDigit_or_eq c (by simp [hc])).resolve_right fun heq => hds (heq ▸ hc)
    · exact (h.isDigit_or_eq c (by simp [hc])).resolve_right fun heq => hfs (heq ▸ hc)
  · exact .inl fun c hc => (h.isDigit_or_eq c hc).resolve_right fun heq => hpoint (heq ▸ hc)

/-! ## The longest run -/

/-- A run that the next character does not continue is the longest one: a longer one would begin
with it and this character. -/
theorem isLongestRun_append (hraw : IsRun raw) (hrest : ∀ c ∈ rest.head?, ¬ IsRun (raw ++ [c])) :
    IsLongestRun raw (raw ++ rest) := by
  refine ⟨⟨rest, rfl⟩, hraw, fun run hle hrun => ?_⟩
  by_contra hlonger
  rcases rest with _ | ⟨c, rest⟩
  · rw [List.append_nil] at hle
    exact hlonger hle.length_le
  · have hnext : raw ++ [c] <+: raw ++ c :: rest := ⟨rest, by simp⟩
    have hlength : (raw ++ [c]).length ≤ run.length := by
      rw [List.length_append, List.length_singleton]
      omega
    exact hrest c rfl (hrun.mono (List.prefix_of_prefix_length_le hnext hle hlength))

/-- What is split off a text: digits, or digits around a point. -/
theorem split_cases (cs : List Char) :
    (∃ ds rest, split cs = (ds, rest) ∧ (∀ c ∈ ds, c.isDigit = true) ∧
      ∀ c ∈ rest.head?, c.isDigit = false ∧ c ≠ '.') ∨
    ∃ ds fs rest, split cs = (ds ++ '.' :: fs, rest) ∧ (∀ c ∈ ds, c.isDigit = true) ∧
      (∀ c ∈ fs, c.isDigit = true) ∧ ∀ c ∈ rest.head?, c.isDigit = false := by
  have hds : ∀ c ∈ cs.takeWhile Char.isDigit, c.isDigit = true := fun _ => List.mem_takeWhile_imp
  unfold split
  split
  · exact .inr ⟨_, _, _, rfl, hds, fun _ => List.mem_takeWhile_imp, head?_dropWhile _⟩
  · rename_i hpoint
    refine .inl ⟨_, _, rfl, hds, fun c hc => ⟨head?_dropWhile _ c hc, ?_⟩⟩
    rintro rfl
    obtain ⟨rest, hrest⟩ := List.head?_eq_some_iff.mp hc
    exact hpoint rest hrest

/-- **The run that is split off** a text is the longest one at its beginning. -/
theorem isLongestRun_split (cs : List Char) : IsLongestRun (split cs).1 cs := by
  suffices h : IsLongestRun (split cs).1 ((split cs).1 ++ (split cs).2) by
    rwa [split_append] at h
  rcases split_cases cs with ⟨ds, rest, h, hds, hrest⟩ | ⟨ds, fs, rest, h, hds, hfs, hrest⟩
  · rw [h]
    refine isLongestRun_append (isRun_whole hds) fun c hc hrun => ?_
    obtain ⟨hdigit, hpoint⟩ := hrest c hc
    rcases hrun.isDigit_or_eq c (by simp) with hc | hc
    · exact Bool.false_ne_true (hdigit.symm.trans hc)
    · exact hpoint hc
  · rw [h]
    refine isLongestRun_append (isRun_point hds hfs) fun c hc hrun => ?_
    rcases (isRun_append_singleton_iff.mp hrun).2 with hc' | ⟨-, hmem⟩
    · exact Bool.false_ne_true ((hrest c hc).symm.trans hc')
    · -- there is a point in the run already
      exact hmem (by simp)

/-- Two runs cannot both be the longest one unless they are the same. -/
theorem IsLongestRun.unique (h : IsLongestRun raw cs) (k : IsLongestRun run cs) : raw = run := by
  have hle := k.longest raw h.begins h.isRun
  have hge := h.longest run k.begins k.isRun
  exact (List.prefix_of_prefix_length_le h.begins k.begins hle).eq_of_length (le_antisymm hle hge)

/-- A point that follows the longest run is a second one. -/
theorem IsLongestRun.point_mem (h : IsLongestRun raw (raw ++ rest))
    (hrest : rest.head? = some '.') : '.' ∈ raw := by
  by_contra hmem
  obtain ⟨rest, rfl⟩ := List.head?_eq_some_iff.mp hrest
  have hrun : IsRun (raw ++ ['.']) := isRun_append_singleton_iff.mpr ⟨h.isRun, .inr ⟨rfl, hmem⟩⟩
  have hlength := h.longest (raw ++ ['.']) ⟨rest, by simp⟩ hrun
  rw [List.length_append, List.length_singleton] at hlength
  omega

/-! ## The number that a run writes -/

theorem filter_isDigit (hds : ∀ c ∈ ds, c.isDigit = true) : ds.filter Char.isDigit = ds :=
  List.filter_eq_self.mpr hds

/-- **The value of a run**, with a point in any place or without one. -/
theorem value_decimal (h : IsRun raw) : (decimal raw).value = rational raw := by
  rcases h.cases with hds | ⟨ds, fs, rfl, hds, hfs⟩
  · have hdrop : raw.dropWhile (· != '.') = [] :=
      List.dropWhile_eq_nil_iff.mpr fun c hc => bne_point_of_isDigit (hds c hc)
    rw [decimal_whole hds, rational, filter_isDigit hds, hdrop, Decimal.value]
    simp
  · have hdrop : (ds ++ '.' :: fs).dropWhile (· != '.') = '.' :: fs := by
      rw [List.dropWhile_append_of_pos fun c hc => bne_point_of_isDigit (hds c hc)]
      rfl
    have hfilter : (ds ++ '.' :: fs).filter Char.isDigit = ds ++ fs := by
      rw [List.filter_append, filter_isDigit hds, List.filter_cons_of_neg (by decide),
        filter_isDigit hfs]
    rw [decimal_point hds, rational, hfilter, hdrop, Decimal.value, List.tail_cons, zpow_neg,
      zpow_natCast, div_eq_mul_inv]

end Numeral

/-! ## The number at a cursor -/

/-- The cursor behind some characters that begin what is ahead. -/
theorem Cursor.skip_ofStart (text : String) (start n : Nat) :
    (Cursor.ofStart text start).skip n = Cursor.ofStart text (start + n) := by
  rw [Cursor.ofStart, Cursor.ofStart, Cursor.skip, List.drop_drop, Int.natCast_add]

theorem Cursor.advance_ofStart (text : String) (start : Nat) :
    (Cursor.ofStart text start).advance = Cursor.ofStart text (start + 1) := by
  rw [Cursor.ofStart, Cursor.ofStart, Cursor.advance, List.drop_drop, Int.natCast_add,
    Int.natCast_one]

/-- **The number at a cursor.**  Whatever stands there, the longest run of digits with at most one
point is taken.  If it has a point and another one follows, this second point is taken too, and the
place behind it is reported.  Otherwise the run is the double nearest to the number that it writes,
if it has a digit, and if it has none it is reported where it begins.  The cursor then stands behind
what was taken. -/
theorem scanNumber_longest (text : String) (start : Nat) :
    ∃ raw rest x, text.toList.drop start = raw ++ rest ∧
      Numeral.IsLongestRun raw (text.toList.drop start) ∧
      isNegative x = false ∧
      Pattern.IsNearest (Numeral.rational raw * 2 ^ 1074) (Pattern.ofFloat x) ∧
      scanNumber (Cursor.ofStart text start) =
        if '.' ∈ raw ∧ rest.head? = some '.' then
          (.error ⟨.secondPoint, start + raw.length + 1⟩,
            Cursor.ofStart text (start + raw.length + 1))
        else if raw.any Char.isDigit = true then
          (.ok x, Cursor.ofStart text (start + raw.length))
        else
          (.error ⟨.unreadableNumber (String.ofList raw), start⟩,
            Cursor.ofStart text (start + raw.length)) := by
  obtain ⟨raw, rest, hraw⟩ : ∃ raw rest, Numeral.split (text.toList.drop start) = (raw, rest) :=
    ⟨_, _, rfl⟩
  have hsplit : raw ++ rest = text.toList.drop start := by
    rw [← Numeral.split_append (text.toList.drop start), hraw]
  have hlongest : Numeral.IsLongestRun raw (text.toList.drop start) := by
    have h := Numeral.isLongestRun_split (text.toList.drop start)
    rwa [hraw] at h
  have hle : (Numeral.decimal raw).pattern ≤ Pattern.infinity :=
    (Decimal.isNearest_pattern _).le_infinity
  refine ⟨raw, rest, (Numeral.decimal raw).toFloat false, hsplit.symm, hlongest,
    isNegative_toFloat false hle, ?_, ?_⟩
  · rw [Decimal.toFloat, ofFloat_toFloat false hle, ← Numeral.value_decimal hlongest.isRun]
    exact Decimal.isNearest_pattern _
  -- a point ahead is a second one, since the run would go on with a first one
  have hpeek : (Cursor.ofStart text (start + raw.length)).peek = some '.' ↔
      '.' ∈ raw ∧ rest.head? = some '.' := by
    rw [Cursor.peek, Cursor.ofStart, ← List.drop_drop, ← hsplit, List.drop_left]
    rw [← hsplit] at hlongest
    exact ⟨fun h => ⟨hlongest.point_mem h, h⟩, And.right⟩
  have hrest : (Cursor.ofStart text start).rest = text.toList.drop start := rfl
  simp only [scanNumber, hrest, hraw, Cursor.skip_ofStart, hpeek, Cursor.advance_ofStart,
    Numeral.value?]
  by_cases hsecond : '.' ∈ raw ∧ rest.head? = some '.'
  · rw [if_pos hsecond, if_pos hsecond]
    rfl
  · rw [if_neg hsecond, if_neg hsecond]
    cases raw.any Char.isDigit <;> rfl

/-- A point in front of a digit, with another one behind it, and a point alone. -/
example : scanNumber (Cursor.ofStart "a.5." 1) =
      (.error ⟨.secondPoint, 4⟩, Cursor.ofStart "a.5." 4) ∧
    scanNumber (Cursor.ofStart "a.+" 1) =
      (.error ⟨.unreadableNumber ".", 1⟩, Cursor.ofStart "a.+" 2) := by
  decide

end Calculator
