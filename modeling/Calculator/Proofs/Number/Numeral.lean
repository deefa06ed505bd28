import Calculator.Number.Layout
import Calculator.Proofs.Lexemes
import Calculator.Proofs.Number.Bits
import Calculator.Proofs.Number.Rounding

/-!
# Reading numbers back

The text of a finite double without a sign is a numeral, and the numeral is read as the same double.

## Main results

* `Decimal.positional_spec`: the text of a decimal is a numeral of the same value
* `toFloat_positional`: a finite double is read back from its digits
-/

namespace Calculator

open Numeral

variable {ds fs : List Char}

/-! ## Values of digits -/

theorem digitsValue_eq (ds : List Char) : digitsValue ds = Nat.ofDigitChars 10 ds 0 :=
  Nat.ofDigitChars_eq_foldl.symm

theorem digitsValue_digits (n : Nat) : digitsValue (Decimal.digits n) = n := by
  rw [digitsValue_eq]
  exact Nat.ofDigitChars_ten_toDigits

theorem digitsValue_append (ds fs : List Char) :
    digitsValue (ds ++ fs) = digitsValue ds * 10 ^ fs.length + digitsValue fs := by
  rw [digitsValue_eq, digitsValue_eq, digitsValue_eq, Nat.ofDigitChars_append,
    Nat.ofDigitChars_eq_ofDigitChars_zero, Nat.mul_comm]

theorem digitsValue_replicate (n : Nat) : digitsValue (List.replicate n '0') = 0 := by
  rw [digitsValue_eq, Nat.ofDigitChars_replicate_zero, Nat.mul_zero]

theorem isDigit_of_mem_digits {n : Nat} {c : Char} (h : c ∈ Decimal.digits n) : c.isDigit = true :=
  Nat.isDigit_of_mem_toDigits (by decide) (by decide) h

theorem isDigit_of_mem_replicate {n : Nat} {c : Char} (h : c ∈ List.replicate n '0') :
    c.isDigit = true := by
  rw [List.eq_of_mem_replicate h]
  rfl

/-! ## The decimal of a numeral -/

theorem bne_point_of_isDigit {c : Char} (h : c.isDigit = true) : (c != '.') = true :=
  bne_iff_ne.mpr (ne_of_isDigit h rfl)

theorem decimal_whole (hds : ∀ c ∈ ds, c.isDigit) :
    decimal ds = ⟨digitsValue ds, -((0 : Nat) : Int)⟩ := by
  have hall : ∀ c ∈ ds, (c != '.') = true := fun c hc => bne_point_of_isDigit (hds c hc)
  have hend : ∀ c ∈ ([] : List Char).head?, (c != '.') = false := by simp
  obtain ⟨htake, hdrop⟩ := takeWhile_append_of_head? hall hend
  rw [List.append_nil] at htake hdrop
  rw [decimal, htake, hdrop]
  simp

theorem decimal_point (hds : ∀ c ∈ ds, c.isDigit) :
    decimal (ds ++ '.' :: fs) = ⟨digitsValue (ds ++ fs), -(fs.length : Int)⟩ := by
  have hall : ∀ c ∈ ds, (c != '.') = true := fun c hc => bne_point_of_isDigit (hds c hc)
  have hend : ∀ c ∈ ('.' :: fs).head?, (c != '.') = false := by simp
  obtain ⟨htake, hdrop⟩ := takeWhile_append_of_head? hall hend
  rw [decimal, htake, hdrop]
  rfl

/-! ## The text of a decimal -/

namespace Decimal

theorem exists_trimZeros_append (ds : List Char) :
    ∃ j, trimZeros ds ++ List.replicate j '0' = ds := by
  refine ⟨(ds.reverse.takeWhile (· == '0')).length, ?_⟩
  have hzeros : ds.reverse.takeWhile (· == '0') =
      List.replicate (ds.reverse.takeWhile (· == '0')).length '0' := by
    rw [List.eq_replicate_iff]
    refine ⟨rfl, fun c hc => ?_⟩
    have hzero : (c == '0') = true := List.mem_takeWhile_imp (p := (· == '0')) hc
    exact eq_of_beq hzero
  rw [trimZeros, ← List.reverse_replicate, ← hzeros, ← List.reverse_append,
    List.takeWhile_append_dropWhile, List.reverse_reverse]

theorem mem_of_mem_trimZeros {c : Char} (h : c ∈ trimZeros ds) : c ∈ ds := by
  obtain ⟨j, hj⟩ := exists_trimZeros_append ds
  rw [← hj]
  exact List.mem_append_left _ h

/-- Zeros at the end of digits are a power of ten. -/
theorem exists_digitsValue_trimZeros (ds : List Char) :
    ∃ j, (trimZeros ds).length + j = ds.length ∧
      digitsValue (trimZeros ds) * 10 ^ j = digitsValue ds := by
  obtain ⟨j, hj⟩ := exists_trimZeros_append ds
  have hlength := congrArg List.length hj
  have hvalue := congrArg digitsValue hj
  rw [List.length_append, List.length_replicate] at hlength
  rw [digitsValue_append, digitsValue_replicate, List.length_replicate, Nat.add_zero] at hvalue
  exact ⟨j, hlength, hvalue⟩

theorem length_padDigits {count : Nat} (h : ds.length ≤ count) :
    (padDigits count ds).length = count := by
  rw [padDigits, List.length_append, List.length_replicate]
  omega

theorem digitsValue_padDigits (count : Nat) (ds : List Char) :
    digitsValue (padDigits count ds) = digitsValue ds := by
  rw [padDigits, digitsValue_append, digitsValue_replicate, Nat.zero_mul, Nat.zero_add]

theorem isDigit_of_mem_padDigits {count n : Nat} {c : Char} (h : c ∈ padDigits count (digits n)) :
    c.isDigit = true := by
  rcases List.mem_append.mp h with h | h
  · exact isDigit_of_mem_replicate h
  · exact isDigit_of_mem_digits h

/-- The digits of a fraction with `k` places, without the zeros at their end. -/
theorem exists_fraction (r k : Nat) (hr : r < 10 ^ (k + 1)) :
    ∃ fs j, trimZeros (padDigits (k + 1) (digits r)) = fs ∧ (∀ c ∈ fs, c.isDigit) ∧
      fs.length + j = k + 1 ∧ digitsValue fs * 10 ^ j = r := by
  have hdigits : (digits r).length ≤ k + 1 :=
    (Nat.length_toDigits_le_iff (by decide) (Nat.succ_pos k)).mpr hr
  obtain ⟨j, hlength, hvalue⟩ := exists_digitsValue_trimZeros (padDigits (k + 1) (digits r))
  rw [length_padDigits hdigits] at hlength
  rw [digitsValue_padDigits, digitsValue_digits] at hvalue
  refine ⟨_, j, rfl, ?_, hlength, hvalue⟩
  intro c hc
  exact isDigit_of_mem_padDigits (mem_of_mem_trimZeros hc)

/-- Without places after the point the digits are followed by zeros. -/
theorem positional_ofNat_spec (c n : Nat) :
    IsNumeral (Decimal.mk c (.ofNat n)).positional ∧
      (Numeral.decimal (Decimal.mk c (.ofNat n)).positional).value =
        (Decimal.mk c (.ofNat n)).value := by
  have htext : (Decimal.mk c (.ofNat n)).positional =
      if c = 0 then ['0'] else digits c ++ List.replicate n '0' := rfl
  rw [htext]
  split
  · rename_i hc
    subst hc
    have hdecimal : Numeral.decimal ['0'] = ⟨0, 0⟩ := by decide
    refine ⟨.whole (List.cons_ne_nil _ _) (by simp), ?_⟩
    rw [hdecimal]
    simp [value]
  · have hdigits : ∀ d ∈ digits c ++ List.replicate n '0', d.isDigit := by
      intro d hd
      rcases List.mem_append.mp hd with hd | hd
      · exact isDigit_of_mem_digits hd
      · exact isDigit_of_mem_replicate hd
    have hne : digits c ++ List.replicate n '0' ≠ [] :=
      List.append_ne_nil_of_left_ne_nil Nat.toDigits_ne_nil _
    refine ⟨.whole hne hdigits, ?_⟩
    rw [decimal_whole hdigits, digitsValue_append, digitsValue_digits, digitsValue_replicate,
      List.length_replicate, Nat.add_zero, value_mul_ten_pow, Nat.cast_zero, neg_zero, zero_add]
    rfl

/-- With places after the point the zeros at their end are left out, and with nothing left there
the point too. -/
theorem positional_negSucc_spec (c k : Nat) :
    IsNumeral (Decimal.mk c (.negSucc k)).positional ∧
      (Numeral.decimal (Decimal.mk c (.negSucc k)).positional).value =
        (Decimal.mk c (.negSucc k)).value := by
  obtain ⟨fs, j, htrim, hfs, hlength, hvalue⟩ :=
    exists_fraction (c % 10 ^ (k + 1)) k (Nat.mod_lt _ (Nat.pow_pos (by decide)))
  have hwhole : ∀ d ∈ digits (c / 10 ^ (k + 1)), d.isDigit := fun _ => isDigit_of_mem_digits
  have htext : (Decimal.mk c (.negSucc k)).positional =
      if fs = [] then digits (c / 10 ^ (k + 1)) else digits (c / 10 ^ (k + 1)) ++ '.' :: fs := by
    rw [← htrim]
    rfl
  -- the coefficient is what is written, followed by the zeros that are not
  have hcoefficient : c = digitsValue (digits (c / 10 ^ (k + 1)) ++ fs) * 10 ^ j := by
    rw [digitsValue_append, digitsValue_digits, Nat.add_mul, hvalue, Nat.mul_assoc, ← Nat.pow_add,
      hlength, Nat.div_add_mod']
  have hexponent : Int.negSucc k + j = -(fs.length : Int) := by omega
  have hscaled := value_mul_ten_pow (digitsValue (digits (c / 10 ^ (k + 1)) ++ fs)) j (.negSucc k)
  rw [← hcoefficient, hexponent] at hscaled
  rw [htext, hscaled]
  split
  · rename_i hnil
    refine ⟨.whole Nat.toDigits_ne_nil hwhole, ?_⟩
    rw [decimal_whole hwhole, hnil, List.append_nil]
    rfl
  · refine ⟨.point Nat.toDigits_ne_nil hwhole hfs, ?_⟩
    rw [decimal_point hwhole]

/-- **The text of a decimal**: it is a numeral of the same value. -/
theorem positional_spec (d : Decimal) :
    IsNumeral d.positional ∧ (Numeral.decimal d.positional).value = d.value := by
  obtain ⟨c, e⟩ := d
  cases e with
  | ofNat n => exact positional_ofNat_spec c n
  | negSucc k => exact positional_negSucc_spec c k

end Decimal

/-- **Reading a number back**: the digits of a finite double without a sign are a numeral, which is
read as the same double. -/
theorem toFloat_positional {x : Float} (hnan : x.isNaN = false) (hinf : x.isInf = false)
    (hsign : isNegative x = false) :
    (Numeral.decimal (Decimal.shortest (Pattern.ofFloat x)).positional).toFloat false = x := by
  have hle := Nat.le_of_lt (ofFloat_lt_infinity hnan hinf)
  rw [Decimal.toFloat, Decimal.pattern_congr (Decimal.positional_spec _).2,
    Decimal.pattern_shortest hle, toFloat_ofFloat hsign]

end Calculator
