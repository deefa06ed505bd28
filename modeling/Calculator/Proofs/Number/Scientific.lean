import Calculator.Proofs.Number.Numeral

/-!
# The layout of numbers in data

The scientific text of a decimal has a whole part without leading zeros, a fraction or an exponent,
and the value of the decimal.

## Main definitions

* `IsWhole ds`: the digits before the point
* `fractionText fs`, `exponentPart e`: a fraction and an exponent, if there is one
* `Decimal.HasParts d text`: the parts of the text `text`, worth the decimal `d`

## Main results

* `Decimal.isWhole_digits`: a natural number is written without leading zeros
* `Decimal.hasParts_scientific`: the parts of the scientific text, and what they are worth
-/

namespace Calculator

open Numeral

variable {ds fs : List Char}

/-- The digits before the point of a number: a lone zero, or digits that begin with another. -/
structure IsWhole (ds : List Char) : Prop where
  ne_nil : ds ≠ []
  isDigit : ∀ c ∈ ds, c.isDigit = true
  eq_zero : ds.head? = some '0' → ds = ['0']

/-- A fraction as it is written after the digits before the point, if it has digits. -/
def fractionText (fs : List Char) : List Char :=
  if fs = [] then [] else '.' :: fs

/-- An exponent as it is written after the digits, if there is one. -/
def exponentPart : Option Int → List Char
  | none => []
  | some e => Decimal.exponentText e

theorem isWhole_singleton {c : Char} (hc : c.isDigit = true) : IsWhole [c] := by
  refine ⟨List.cons_ne_nil _ _, by simpa using hc, ?_⟩
  intro h
  rw [Option.some.inj h]

/-- Digits may follow a first digit that is not zero. -/
theorem isWhole_append {us : List Char} (hds : IsWhole ds) (hne : ds.head? ≠ some '0')
    (hus : ∀ c ∈ us, c.isDigit = true) : IsWhole (ds ++ us) := by
  obtain ⟨c, cs, rfl⟩ := List.exists_cons_of_ne_nil hds.ne_nil
  refine ⟨List.cons_ne_nil _ _, ?_, fun h => absurd h hne⟩
  intro d hd
  rcases List.mem_append.mp hd with hd | hd
  · exact hds.isDigit d hd
  · exact hus d hd

namespace Decimal

/-- Only zero is written with a zero in front. -/
theorem head?_digits {n : Nat} (hn : n ≠ 0) : (digits n).head? ≠ some '0' := by
  induction n using Nat.strong_induction_on with
  | h n ih =>
    rw [digits, Nat.toDigits_eq_if (by decide)]
    split
    · rename_i hlt
      have key : ∀ m < 10, m ≠ 0 → m.digitChar ≠ '0' := by decide
      intro h
      exact key n hlt hn (Option.some.inj h)
    · rename_i hge
      have hquotient : n / 10 ≠ 0 := by omega
      obtain ⟨c, cs, hcs⟩ := List.exists_cons_of_ne_nil (@Nat.toDigits_ne_nil (n / 10) 10)
      have hhead := ih (n / 10) (by omega) hquotient
      rw [digits, hcs] at hhead
      rw [hcs]
      exact hhead

/-- **A natural number** is written without leading zeros. -/
theorem isWhole_digits (n : Nat) : IsWhole (digits n) := by
  refine ⟨Nat.toDigits_ne_nil, fun _ => isDigit_of_mem_digits, ?_⟩
  intro h
  by_cases hn : n = 0
  · rw [hn]
    rfl
  · exact absurd h (head?_digits hn)

/-- The positional text has digits before the point, and after it if there is one. -/
theorem exists_positional (d : Decimal) :
    ∃ ds fs, d.positional = ds ++ fractionText fs ∧ IsWhole ds ∧ ∀ c ∈ fs, c.isDigit = true := by
  obtain ⟨c, n | k⟩ := d
  · show ∃ ds fs, (if c = 0 then ['0'] else digits c ++ List.replicate n '0') =
      ds ++ fractionText fs ∧ _
    split
    · exact ⟨['0'], [], rfl, isWhole_singleton rfl, by simp⟩
    · rename_i hc
      refine ⟨_, [], (List.append_nil _).symm, ?_, by simp⟩
      exact isWhole_append (isWhole_digits c) (head?_digits hc) fun _ => isDigit_of_mem_replicate
  · obtain ⟨fs, j, htrim, hfs, -, -⟩ :=
      exists_fraction (c % 10 ^ (k + 1)) k (Nat.mod_lt _ (Nat.pow_pos (by decide)))
    refine ⟨digits (c / 10 ^ (k + 1)), fs, ?_, isWhole_digits _, hfs⟩
    rw [fractionText, ← htrim]
    show (if _ then _ else _) = _
    split <;> simp_all

theorem contains_point (hds : IsWhole ds) (fs : List Char) :
    (ds ++ fractionText fs).contains '.' = !(fs = [] : Bool) := by
  have hpoint : '.' ∉ ds := fun h => absurd (hds.isDigit _ h) (by decide)
  rw [Bool.eq_iff_iff, List.contains_iff_mem, List.mem_append, or_iff_right hpoint, fractionText]
  split
  · rename_i hfs
    simp [hfs]
  · rename_i hfs
    simp [hfs]

/-- What the digits of a text are worth, with the point where it stands. -/
theorem pattern_of_positional {d : Decimal} (h : d.positional = ds ++ fractionText fs)
    (hds : IsWhole ds) :
    (Decimal.mk (digitsValue (ds ++ fs)) (-(fs.length : Int))).pattern = d.pattern := by
  rw [← pattern_congr (positional_spec d).2, h, fractionText]
  split
  · rename_i hfs
    rw [hfs, List.append_nil, decimal_whole hds.isDigit]
    rfl
  · rw [decimal_point hds.isDigit]

/-- The parts of a text in the layout of data: digits before the point, and a fraction or an
exponent after them, which together are worth the decimal `d`. -/
def HasParts (d : Decimal) (text : List Char) : Prop :=
  ∃ (ds fs : List Char) (e : Option Int),
    text = ds ++ fractionText fs ++ exponentPart e ∧ IsWhole ds ∧
    (∀ c ∈ fs, c.isDigit = true) ∧ (fs = [] → e ≠ none) ∧
    (Decimal.mk (digitsValue (ds ++ fs)) (e.getD 0 - (fs.length : Int))).pattern = d.pattern

/-- A positional text has a fraction, once a zero is written where there is none. -/
theorem hasParts_positional (d : Decimal) :
    d.HasParts
      (if d.positional.contains '.' then d.positional else d.positional ++ ['.', '0']) := by
  obtain ⟨ds, fs, htext, hds, hfs⟩ := exists_positional d
  have hpattern := pattern_of_positional htext hds
  rw [htext, contains_point hds]
  by_cases hnil : fs = []
  · subst hnil
    refine ⟨ds, ['0'], none, by simp [fractionText, exponentPart], hds, by simp, by simp, ?_⟩
    have hzero := pattern_congr (value_mul_ten_pow (digitsValue ds) 1 (-1))
    rw [← hpattern, digitsValue_append, Option.getD_none]
    simpa [digitsValue] using hzero
  · refine ⟨ds, fs, none, ?_, hds, hfs, fun h => absurd h hnil, ?_⟩
    · simp [hnil, exponentPart]
    · rw [← hpattern, Option.getD_none, Int.zero_sub]

/-- With an exponent the zeros at the end of the coefficient are left out. -/
theorem hasParts_exponent {d : Decimal} (hd : d.coefficient ≠ 0) :
    d.HasParts (match trimZeros (digits d.coefficient) with
      | [] => []
      | [c] => c :: exponentText ((digits d.coefficient).length + d.exponent - 1)
      | c :: cs => c :: '.' :: cs ++
          exponentText ((digits d.coefficient).length + d.exponent - 1)) := by
  have hdigit : ∀ c ∈ trimZeros (digits d.coefficient), c.isDigit = true :=
    fun c hc => isDigit_of_mem_digits (mem_of_mem_trimZeros hc)
  obtain ⟨j, hlength, hvalue⟩ := exists_digitsValue_trimZeros (digits d.coefficient)
  rw [digitsValue_digits] at hvalue
  have hpattern : (Decimal.mk (digitsValue (trimZeros (digits d.coefficient)))
      (d.exponent + j)).pattern = d.pattern := by
    rw [← pattern_congr (value_mul_ten_pow _ _ _), hvalue]
  -- the first digit is the whole part, and the others, if there are any, are the fraction
  generalize trimZeros (digits d.coefficient) = ts at hdigit hvalue hlength hpattern
  match ts with
  | [] =>
    rw [← hvalue] at hd
    exact absurd (Nat.zero_mul _) hd
  | [c] =>
    refine ⟨[c], [], some _, rfl, isWhole_singleton (hdigit c List.mem_cons_self), by simp, by simp,
      ?_⟩
    have hexponent : ((digits d.coefficient).length : Int) + d.exponent - 1 - (0 : Nat) =
        d.exponent + j := by
      rw [List.length_singleton] at hlength
      omega
    rw [← hpattern, Option.getD_some, List.length_nil, hexponent, List.append_nil]
  | c :: c' :: cs =>
    refine ⟨[c], c' :: cs, some _, rfl, isWhole_singleton (hdigit c List.mem_cons_self), ?_,
      by simp, ?_⟩
    · intro d' hd'
      exact hdigit d' (List.mem_cons_of_mem _ hd')
    · have hexponent : ((digits d.coefficient).length : Int) + d.exponent - 1 -
          ((c' :: cs).length : Int) = d.exponent + j := by
        rw [List.length_cons] at hlength
        omega
      rw [← hpattern, Option.getD_some, hexponent, List.singleton_append]

/-- **The scientific text** of a decimal has its parts. -/
theorem hasParts_scientific (d : Decimal) : d.HasParts d.scientific := by
  rw [scientific]
  split
  · exact hasParts_positional d
  · rename_i hlarge
    exact hasParts_exponent fun hd => hlarge (.inl hd)

end Decimal

end Calculator
