import Calculator.Proofs.Number.Nearest

/-!
# Rounding decimals

A decimal is read as the double nearest to its value.  So the value alone decides, not how it is
scaled, and the bounds that spare huge powers of ten change nothing.

## Main definitions

* `Decimal.value d`: the rational number that a decimal stands for

## Main results

* `Decimal.pattern_of_nonneg`, `Decimal.pattern_of_nonpos`: the pattern of a decimal without bounds
* `Decimal.isNearest_pattern`: a decimal is read as the nearest double
* `Decimal.pattern_congr`, `Decimal.pattern_mono`: the value decides, in order
* `Decimal.value_mul_ten_pow`: zeros at the end of a coefficient
* `Decimal.pattern_shortest`: the shortest decimal of a pattern is read as that pattern
-/

namespace Calculator

namespace Decimal

variable {b c k n : ℕ} {d d' : Decimal}

theorem two_pow_le_ten_pow (n : Nat) : 2 ^ (3 * n) ≤ 10 ^ n := by
  rw [Nat.pow_mul]
  exact Nat.pow_le_pow_left (by decide) n

theorem le_log2_shiftLeft (hc : c ≠ 0) (n i : Nat) :
    c.log2 + 3 * n + i ≤ ((c * 10 ^ n) <<< i).log2 := by
  have hpos : c * 10 ^ n ≠ 0 := Nat.mul_ne_zero hc (Nat.ne_of_gt (Nat.pow_pos (by decide)))
  rw [Nat.shiftLeft_eq, Nat.le_log2 (Nat.mul_ne_zero hpos (Nat.ne_of_gt (Nat.two_pow_pos i)))]
  calc 2 ^ (c.log2 + 3 * n + i) = 2 ^ c.log2 * 2 ^ (3 * n) * 2 ^ i := by
        rw [Nat.pow_add, Nat.pow_add]
    _ ≤ c * 10 ^ n * 2 ^ i := Nat.mul_le_mul_right _
        (Nat.mul_le_mul (Nat.log2_self_le hc) (two_pow_le_ten_pow n))

theorem two_mul_shiftLeft_lt {i : Nat} (h : c.log2 + i + 2 ≤ 3 * k) : 2 * c <<< i < 10 ^ k := by
  rw [Nat.shiftLeft_eq]
  calc 2 * (c * 2 ^ i) = c * 2 ^ (i + 1) := by
        rw [Nat.pow_succ, ← Nat.mul_assoc c, Nat.mul_comm 2]
    _ < 2 ^ (c.log2 + 1) * 2 ^ (i + 1) :=
        Nat.mul_lt_mul_of_pos_right Nat.lt_log2_self (Nat.two_pow_pos _)
    _ = 2 ^ (c.log2 + 1 + (i + 1)) := (Nat.pow_add ..).symm
    _ ≤ 2 ^ (3 * k) := Nat.pow_le_pow_right (by decide) (by omega)
    _ ≤ 10 ^ k := two_pow_le_ten_pow k

/-- The bound for huge values is a short cut only. -/
theorem pattern_of_nonneg (c n : Nat) :
    (Decimal.mk c (n : Int)).pattern = Pattern.nearest ((c * 10 ^ n) <<< 1074) 1 := by
  show (if c = 0 then 0 else if 1025 ≤ c.log2 + 3 * n then Pattern.infinity
    else Pattern.nearest ((c * 10 ^ n) <<< 1074) 1) = _
  split
  · rename_i hc
    rw [hc, Nat.zero_mul, Nat.zero_shiftLeft, Pattern.nearest_of_lt (by decide)]
  · rename_i hc
    split
    · rename_i hlarge
      have hlog := le_log2_shiftLeft hc n 1074
      rw [Pattern.nearest_of_le_log2 (by omega)]
    · rfl

/-- The bound for tiny values is a short cut only. -/
theorem pattern_of_nonpos (c k : Nat) :
    (Decimal.mk c (-(k : Int))).pattern = Pattern.nearest (c <<< 1074) (10 ^ k) := by
  rcases k with _ | k
  · have hzero := pattern_of_nonneg c 0
    rwa [Nat.pow_zero, Nat.mul_one] at hzero
  show (if c = 0 then 0 else if c.log2 + 1081 < 3 * (k + 1) then 0
    else Pattern.nearest (c <<< 1074) (10 ^ (k + 1))) = _
  split
  · rename_i hc
    rw [hc, Nat.zero_shiftLeft, Pattern.nearest_of_lt (Nat.pow_pos (by decide))]
  · split
    · rename_i hsmall
      have hlt : 2 * c <<< 1074 < 10 ^ (k + 1) := two_mul_shiftLeft_lt (by omega)
      rw [Pattern.nearest_of_lt hlt]
    · rfl

/-! ## Values -/

/-- The rational number that a decimal stands for. -/
def value (d : Decimal) : ℚ :=
  d.coefficient * 10 ^ d.exponent

theorem cast_shiftLeft (c i : ℕ) : ((c <<< i : ℕ) : ℚ) = c * 2 ^ i := by
  rw [Nat.shiftLeft_eq, Nat.cast_mul, Nat.cast_pow, Nat.cast_ofNat]

/-- **A decimal is read** as the nearest double, the even one of two that are equally near. -/
theorem isNearest_pattern (d : Decimal) : Pattern.IsNearest (d.value * 2 ^ 1074) d.pattern := by
  obtain ⟨c, e⟩ := d
  -- a power of ten goes to the numerator or to the denominator
  obtain ⟨n, rfl | rfl⟩ := Int.eq_nat_or_neg e
  · have hnearest := Pattern.isNearest_nearest ((c * 10 ^ n) <<< 1074) Nat.one_pos
    rw [cast_shiftLeft, Nat.cast_one, div_one, Nat.cast_mul, Nat.cast_pow, Nat.cast_ofNat,
      ← pattern_of_nonneg] at hnearest
    rwa [value, zpow_natCast]
  · have hden : 0 < 10 ^ n := Nat.pow_pos (by decide)
    have hnearest := Pattern.isNearest_nearest (c <<< 1074) hden
    rw [cast_shiftLeft, Nat.cast_pow, Nat.cast_ofNat, ← pattern_of_nonpos,
      mul_div_right_comm] at hnearest
    rwa [value, zpow_neg, zpow_natCast, ← div_eq_mul_inv]

/-- Decimals of the same value are read alike. -/
theorem pattern_congr (h : d.value = d'.value) : d.pattern = d'.pattern :=
  (isNearest_pattern d).unique (h ▸ isNearest_pattern d')

theorem pattern_mono (h : d.value ≤ d'.value) : d.pattern ≤ d'.pattern :=
  (isNearest_pattern d).mono (isNearest_pattern d')
    (mul_le_mul_of_nonneg_right h (by positivity))

/-- Zeros at the end of a coefficient are worth powers of ten. -/
theorem value_mul_ten_pow (c j : ℕ) (e : ℤ) :
    (Decimal.mk (c * 10 ^ j) e).value = (Decimal.mk c (e + j)).value := by
  have hten : (10 : ℚ) ≠ 0 := by norm_num
  rw [value, value, zpow_add₀ hten, zpow_natCast, Nat.cast_mul, Nat.cast_pow, Nat.cast_ofNat,
    mul_assoc, mul_comm ((10 : ℚ) ^ j)]

/-- The value of a pattern written without rounding. -/
theorem value_exact (b : ℕ) : (exact b).value * 2 ^ 1074 = Pattern.units b := by
  rw [Pattern.units, cast_shiftLeft, exact]
  generalize Pattern.doublings b = i
  generalize Pattern.significand b = c
  split
  · rename_i hlarge
    rw [value, cast_shiftLeft, zpow_zero, mul_one, mul_assoc, ← pow_add, Nat.sub_add_cancel hlarge]
  · rename_i hsmall
    -- a missing power of two is a power of ten over a power of five
    obtain ⟨k, hk⟩ : ∃ k, 1074 = i + k := ⟨1074 - i, by omega⟩
    have hten : (10 : ℚ) ^ k = 5 ^ k * 2 ^ k := by
      rw [← mul_pow]
      norm_num
    have hne : (10 : ℚ) ^ k ≠ 0 := by positivity
    have hfive : ((Nat.pow 5 k : ℕ) : ℚ) = 5 ^ k := by rw [Nat.pow_eq, Nat.cast_pow, Nat.cast_ofNat]
    rw [value, hk, Nat.add_sub_cancel_left, Nat.cast_mul, hfive, zpow_neg, zpow_natCast, pow_add]
    field_simp
    rw [hten]
    ring

/-- A pattern is read back from its value. -/
theorem pattern_exact (hb : b ≤ Pattern.infinity) : (exact b).pattern = b := by
  have hread := isNearest_pattern (exact b)
  rw [value_exact] at hread
  exact hread.unique (Pattern.isNearest_units hb)

/-- **Shortest digits**: the shortest decimal of a pattern is read as that pattern. -/
theorem pattern_shortest (hb : b ≤ Pattern.infinity) : (shortest b).pattern = b := by
  unfold shortest
  split
  · rename_i hzero
    rw [hzero]
    rfl
  · simp only []
    cases hfound : (List.range 17).findSome? fun i =>
        onGrid? b (exact b).coefficient (exact b).exponent
          ((digits (exact b).coefficient).length - (i + 1)) with
    | none => exact pattern_exact hb
    | some d =>
      -- whatever is found was read back before it was taken
      obtain ⟨i, -, hgrid⟩ := List.exists_of_findSome?_eq_some hfound
      exact of_decide_eq_true (readsAs_of_onGrid? hgrid)

end Decimal

end Calculator
