import Calculator.Proofs.Number.Rounding

/-!
# The shortest decimal

Among the decimals with a given number of digits, one of the two next to a value is read as its
double if any of them is.  Seventeen digits always serve.  So the search for the shortest decimal
finds one with as few digits as any decimal that is read as the same double, and of those the
nearest to its value.

## Main definitions

* `Decimal.FitsIn n d`: the value of `d` can be written with `n` digits
* `Decimal.IsShortest b d`: the decimal `d` has the fewest digits for the pattern `b`
* `Decimal.below`, `Decimal.above`: the neighbours of a value among the decimals with fewer digits

## Main results

* `Decimal.isSome_onGrid?_of_fitsIn`: a grid with a decimal of the pattern has one next to its value
* `Decimal.exists_seventeen_digits`: a pattern has a decimal of seventeen digits
* `Decimal.isShortest_shortest`: what the search finds is the shortest decimal
-/

namespace Calculator

namespace Decimal

variable {b c c' k n w : ℕ} {e e' : ℤ} {d : Decimal}

/-- The value of a decimal can be written with `n` digits and an exponent. -/
def FitsIn (n : ℕ) (d : Decimal) : Prop :=
  ∃ c < 10 ^ n, ∃ e : ℤ, d.value = (Decimal.mk c e).value

theorem FitsIn.mono {m : ℕ} (h : d.FitsIn m) (hle : m ≤ n) : d.FitsIn n := by
  obtain ⟨c, hc, e, hvalue⟩ := h
  exact ⟨c, Nat.lt_of_lt_of_le hc (Nat.pow_le_pow_right (by decide) hle), e, hvalue⟩

theorem value_le_value (h : c ≤ c') : (Decimal.mk c e).value ≤ (Decimal.mk c' e).value :=
  mul_le_mul_of_nonneg_right (by exact_mod_cast h) (by positivity)

theorem ne_zero_of_pattern (h : (Decimal.mk w e).pattern = b) (hb : b ≠ 0) : w ≠ 0 := by
  rintro rfl
  exact hb h.symm

/-- What is not read as zero has a digit. -/
theorem pos_of_fitsIn (h : d.FitsIn n) (hd : d.pattern ≠ 0) : 0 < n := by
  obtain ⟨c, hc, e, hvalue⟩ := h
  have hne : c ≠ 0 := ne_zero_of_pattern (pattern_congr hvalue).symm hd
  rcases Nat.eq_zero_or_pos n with rfl | hn
  · rw [Nat.pow_zero] at hc
    omega
  · exact hn

/-! ## The neighbours on a grid -/

/-- The decimal on the grid without the last `k` digits that is next to `w * 10 ^ e` from below. -/
def below (w k : ℕ) (e : ℤ) : Decimal :=
  ⟨w / 10 ^ k, e + k⟩

/-- The one next to it from above. -/
def above (w k : ℕ) (e : ℤ) : Decimal :=
  ⟨w / 10 ^ k + 1, e + k⟩

theorem value_below_le (w k : ℕ) (e : ℤ) : (below w k e).value ≤ (Decimal.mk w e).value := by
  rw [below, ← value_mul_ten_pow]
  exact value_le_value (Nat.div_mul_le_self w _)

theorem value_le_above (w k : ℕ) (e : ℤ) : (Decimal.mk w e).value ≤ (above w k e).value := by
  rw [above, ← value_mul_ten_pow]
  exact value_le_value (Nat.lt_mul_of_div_lt (Nat.lt_succ_self _) (Nat.pow_pos (by decide))).le

theorem abs_below_sub (w k : ℕ) (e : ℤ) :
    |(below w k e).value - (Decimal.mk w e).value| = (w % 10 ^ k : ℕ) * 10 ^ e := by
  have hw : (w : ℚ) = (w / 10 ^ k * 10 ^ k : ℕ) + (w % 10 ^ k : ℕ) := by
    exact_mod_cast (Nat.div_add_mod' w (10 ^ k)).symm
  rw [abs_sub_comm, abs_of_nonneg (sub_nonneg.mpr (value_below_le w k e)), below,
    ← value_mul_ten_pow, value, value, ← sub_mul, sub_eq_of_eq_add' hw]

theorem abs_above_sub (w k : ℕ) (e : ℤ) :
    |(above w k e).value - (Decimal.mk w e).value| = (10 ^ k - (w % 10 ^ k : ℕ)) * 10 ^ e := by
  have hw : (w : ℚ) = (w / 10 ^ k * 10 ^ k : ℕ) + (w % 10 ^ k : ℕ) := by
    exact_mod_cast (Nat.div_add_mod' w (10 ^ k)).symm
  rw [abs_of_nonneg (sub_nonneg.mpr (value_le_above w k e)), above, ← value_mul_ten_pow, value,
    value, ← sub_mul, Nat.add_one_mul, Nat.cast_add, Nat.cast_pow, Nat.cast_ofNat]
  congr 1
  linarith

/-- **The candidates of a grid** are the two neighbours.  The one that is taken is the nearer one,
if the other is read as the pattern too. -/
theorem onGrid?_cases (h : onGrid? b w e k = some d) :
    d = below w k e ∧ ((above w k e).pattern = b →
        |(below w k e).value - (Decimal.mk w e).value| ≤
          |(above w k e).value - (Decimal.mk w e).value|) ∨
      d = above w k e ∧ ((below w k e).pattern = b →
        |(above w k e).value - (Decimal.mk w e).value| ≤
          |(below w k e).value - (Decimal.mk w e).value|) := by
  have hpos : (0 : ℚ) ≤ 10 ^ e := by positivity
  rw [abs_below_sub, abs_above_sub]
  simp only [onGrid?, Nat.pow_eq] at h
  split at h
  · -- both candidates are read as the pattern, and the nearer one is taken
    split at h
    · rename_i hnear
      have hle : 2 * (w % 10 ^ k) ≤ 10 ^ k := by
        simp only [Bool.or_eq_true, Bool.and_eq_true, decide_eq_true_eq] at hnear
        omega
      have hcast : (2 * (w % 10 ^ k : ℕ) : ℚ) ≤ 10 ^ k := by exact_mod_cast hle
      exact .inl ⟨(Option.some.inj h).symm, fun _ =>
        mul_le_mul_of_nonneg_right (by linarith) hpos⟩
    · rename_i hfar
      have hle : 10 ^ k ≤ 2 * (w % 10 ^ k) := by
        simp only [Bool.or_eq_true, Bool.and_eq_true, decide_eq_true_eq] at hfar
        omega
      have hcast : (10 ^ k : ℚ) ≤ 2 * (w % 10 ^ k : ℕ) := by exact_mod_cast hle
      exact .inr ⟨(Option.some.inj h).symm, fun _ =>
        mul_le_mul_of_nonneg_right (by linarith) hpos⟩
  · -- only one of them is
    rename_i hbelow habove
    exact .inl ⟨(Option.some.inj h).symm, fun hread =>
      absurd (habove.symm.trans (decide_eq_true hread)) Bool.false_ne_true⟩
  · rename_i hbelow habove
    exact .inr ⟨(Option.some.inj h).symm, fun hread =>
      absurd (hbelow.symm.trans (decide_eq_true hread)) Bool.false_ne_true⟩
  · cases h

/-- One of the two is found if one of them is read as the pattern. -/
theorem isSome_onGrid? (h : (below w k e).pattern = b ∨ (above w k e).pattern = b) :
    (onGrid? b w e k).isSome := by
  have hread : (below w k e).readsAs b = true ∨ (above w k e).readsAs b = true :=
    h.imp decide_eq_true decide_eq_true
  simp only [onGrid?]
  split
  · split <;> rfl
  · rfl
  · rfl
  · rename_i hbelow habove
    rcases hread with hread | hread
    · cases hbelow.symm.trans hread
    · cases habove.symm.trans hread

/-- One of the two is no further away than half a step. -/
theorem below_or_above_near (w k : ℕ) (e : ℤ) :
    2 * |(below w k e).value - (Decimal.mk w e).value| ≤ (Decimal.mk 1 (e + k)).value ∨
      2 * |(above w k e).value - (Decimal.mk w e).value| ≤ (Decimal.mk 1 (e + k)).value := by
  have hstep : (Decimal.mk 1 (e + k)).value = 10 ^ k * 10 ^ e := by
    rw [← value_mul_ten_pow, Nat.one_mul, value, Nat.cast_pow, Nat.cast_ofNat]
  rw [abs_below_sub, abs_above_sub, hstep]
  rcases le_total (2 * ((w % 10 ^ k : ℕ) * 10 ^ e : ℚ)) (10 ^ k * 10 ^ e) with hnear | hfar
  · exact .inl hnear
  · exact .inr (by linarith)

/-- **No other decimal** with `n` digits lies between the two: one with a smaller exponent is too
small to reach the value, and the others are on the grid. -/
theorem le_below_or_above_le (hc : c < 10 ^ n) (hw : 10 ^ (n - 1 + k) ≤ w) (hn : 0 < n)
    (e e' : ℤ) :
    (Decimal.mk c e').value ≤ (below w k e).value ∨
      (above w k e).value ≤ (Decimal.mk c e').value := by
  rcases lt_or_ge e' (e + k) with hlt | hge
  · obtain ⟨j, hj⟩ : ∃ j : ℕ, e + k = e' + (j + 1 : ℕ) := ⟨(e + k - e' - 1).toNat, by omega⟩
    have hbelow : 10 ^ (n - 1) ≤ w / 10 ^ k := by
      rwa [Nat.le_div_iff_mul_le (Nat.pow_pos (by decide)), ← Nat.pow_add]
    rw [below, hj, ← value_mul_ten_pow]
    refine .inl (value_le_value ?_)
    calc c ≤ 10 ^ (n - 1 + 1) := by rw [Nat.sub_add_cancel hn]; exact hc.le
      _ = 10 ^ (n - 1) * 10 ^ 1 := Nat.pow_add ..
      _ ≤ w / 10 ^ k * 10 ^ (j + 1) :=
        Nat.mul_le_mul hbelow (Nat.pow_le_pow_right (by decide) (by omega))
  · -- on the grid nothing lies between neighbours
    obtain ⟨j, hj⟩ : ∃ j : ℕ, e' = e + k + j := ⟨(e' - e - k).toNat, by omega⟩
    rw [hj, ← value_mul_ten_pow]
    rcases Nat.lt_or_ge (w / 10 ^ k) (c * 10 ^ j) with hlt | hle
    · exact .inr (value_le_value hlt)
    · exact .inl (value_le_value hle)

theorem fitsIn_below (hw : w < 10 ^ (n + k)) (e : ℤ) : (below w k e).FitsIn n :=
  ⟨w / 10 ^ k, Nat.div_lt_of_lt_mul (by rwa [Nat.mul_comm, ← Nat.pow_add]), e + k, rfl⟩

/-- A digit more is a power of ten. -/
theorem fitsIn_above (hn : 0 < n) (hw : w < 10 ^ (n + k)) (e : ℤ) :
    (above w k e).FitsIn n := by
  have hbelow : w / 10 ^ k < 10 ^ n :=
    Nat.div_lt_of_lt_mul (by rwa [Nat.mul_comm, ← Nat.pow_add])
  rcases Nat.lt_or_eq_of_le hbelow with hlt | heq
  · exact ⟨_, hlt, e + k, rfl⟩
  · refine ⟨1, Nat.one_lt_pow hn.ne' (by decide), e + k + n, ?_⟩
    rw [← value_mul_ten_pow, Nat.one_mul, ← heq, above]

/-! ## Decimals of a pattern -/

theorem isNearest_iff_pattern : Pattern.IsNearest (d.value * 2 ^ 1074) b ↔ d.pattern = b := by
  constructor
  · exact fun h => (isNearest_pattern d).unique h
  · rintro rfl
    exact isNearest_pattern d

/-- What lies between two decimals of a pattern is read as it too. -/
theorem pattern_of_between {d₁ d₂ : Decimal} (h₁ : d₁.pattern = b) (h₂ : d₂.pattern = b)
    (hle₁ : d₁.value ≤ d.value) (hle₂ : d.value ≤ d₂.value) : d.pattern = b :=
  le_antisymm (h₂ ▸ pattern_mono hle₂) (h₁ ▸ pattern_mono hle₁)

/-- The decimal of `n` digits next to a value, on the grid where the value has `length` digits. -/
theorem isSome_onGrid?_of_fitsIn (hn : 0 < n) (hlower : 10 ^ ((digits w).length - 1) ≤ w)
    (hw : (Decimal.mk w e).pattern = b) (hd : d.pattern = b) (hfits : d.FitsIn n) :
    (onGrid? b w e ((digits w).length - n)).isSome := by
  obtain ⟨c, hc, e', hvalue⟩ := hfits
  have hcompetitor : (Decimal.mk c e').pattern = b := by rw [← pattern_congr hvalue, hd]
  apply isSome_onGrid?
  rcases Nat.lt_or_ge (digits w).length n with hlt | hle
  · -- the value itself is on the grid
    have hzero : (digits w).length - n = 0 := by omega
    rw [hzero, below, Nat.pow_zero, Nat.div_one, Nat.cast_zero, add_zero]
    exact .inl hw
  · have hpow : n - 1 + ((digits w).length - n) = (digits w).length - 1 := by omega
    -- a neighbour between the competitor and the value is read as both are
    rcases le_below_or_above_le hc (hpow ▸ hlower) hn e e' with hbelow | habove
    · exact .inl (pattern_of_between hcompetitor hw hbelow (value_below_le w _ e))
    · exact .inr (pattern_of_between hw hcompetitor (value_le_above w _ e) habove)

/-- What is found on a grid is at least as near as a decimal of the pattern that does not lie
between the two neighbours. -/
theorem abs_sub_le_of_onGrid? {x : Decimal} (h : onGrid? b w e k = some x)
    (hw : (Decimal.mk w e).pattern = b) (hd : d.pattern = b)
    (hside : d.value ≤ (below w k e).value ∨ (above w k e).value ≤ d.value) :
    |x.value - (Decimal.mk w e).value| ≤ |d.value - (Decimal.mk w e).value| := by
  have hbelow := value_below_le w k e
  have habove := value_le_above w k e
  rcases hside with hle | hle
  · have hread := pattern_of_between hd hw hle hbelow
    have hfar : |(below w k e).value - (Decimal.mk w e).value| ≤
        |d.value - (Decimal.mk w e).value| := by
      rw [abs_sub_comm, abs_of_nonneg (by linarith), abs_sub_comm, abs_of_nonneg (by linarith)]
      linarith
    rcases onGrid?_cases h with ⟨rfl, -⟩ | ⟨rfl, hnear⟩
    · exact hfar
    · exact (hnear hread).trans hfar
  · have hread := pattern_of_between hw hd habove hle
    have hfar : |(above w k e).value - (Decimal.mk w e).value| ≤
        |d.value - (Decimal.mk w e).value| := by
      rw [abs_of_nonneg (by linarith), abs_of_nonneg (by linarith)]
      linarith
    rcases onGrid?_cases h with ⟨rfl, hnear⟩ | ⟨rfl, -⟩
    · exact (hnear hread).trans hfar
    · exact hfar

/-- A decimal is read as a pattern if it is no further from its value than half a step of the
seventeenth digit, since `10 ^ 16` is more than `2 ^ 53`. -/
theorem pattern_of_near {x s : ℚ} (hb : b ≤ Pattern.infinity) (hx : x * 2 ^ 1074 = Pattern.units b)
    (hpos : 0 < x) (hs : 10 ^ 16 * s ≤ x) (hnear : 2 * |d.value - x| ≤ s) : d.pattern = b := by
  refine (isNearest_pattern d).unique (Pattern.isNearest_of_near hb ?_)
  have hunit : (0 : ℚ) < 2 ^ 1074 := by positivity
  rw [← hx, ← sub_mul, abs_mul, abs_of_pos hunit, ← mul_assoc]
  exact mul_lt_mul_of_pos_right (by linarith) hunit

/-- **Seventeen digits** serve for every pattern. -/
theorem exists_seventeen_digits (hb : b ≤ Pattern.infinity) :
    ∃ d : Decimal, d.pattern = b ∧ d.FitsIn 17 := by
  rcases Nat.eq_zero_or_pos b with rfl | hpos
  · exact ⟨⟨0, 0⟩, rfl, 0, by decide, 0, rfl⟩
  -- the value with zeros at its end, so that it has seventeen digits at least
  obtain ⟨w, e, hvalue⟩ : ∃ w e,
      (Decimal.mk (w * 10 ^ 16) e).value * 2 ^ 1074 = Pattern.units b := by
    refine ⟨(exact b).coefficient, (exact b).exponent - 16, ?_⟩
    rw [value_mul_ten_pow, Nat.cast_ofNat, Int.sub_add_cancel]
    exact value_exact b
  have hunits : (0 : ℚ) < Pattern.units b :=
    lt_of_le_of_lt (Nat.cast_nonneg _) (Pattern.cast_units_lt hpos)
  have hvalue_pos : 0 < (Decimal.mk (w * 10 ^ 16) e).value :=
    pos_of_mul_pos_left (hvalue ▸ hunits) (by positivity)
  have hw : w ≠ 0 := by
    rintro rfl
    simp [value] at hvalue_pos
  -- the digits before the last `k` are seventeen
  obtain ⟨k, hlower, hupper⟩ : ∃ k, 10 ^ k ≤ w ∧ w < 10 ^ (k + 1) :=
    ⟨Nat.log 10 w, Nat.pow_log_le_self 10 hw, Nat.lt_pow_succ_log_self (by decide) w⟩
  have hdigits : w * 10 ^ 16 < 10 ^ (17 + k) := by
    rw [show 17 + k = k + 1 + 16 by omega, Nat.pow_add]
    exact Nat.mul_lt_mul_of_pos_right hupper (by decide)
  have hstep : 10 ^ 16 * (Decimal.mk 1 (e + k)).value ≤ (Decimal.mk (w * 10 ^ 16) e).value := by
    calc 10 ^ 16 * (Decimal.mk 1 (e + k)).value = (Decimal.mk (10 ^ 16) (e + k)).value := by
          rw [value, value, Nat.cast_one, one_mul, Nat.cast_pow, Nat.cast_ofNat]
      _ = (Decimal.mk (10 ^ 16 * 10 ^ k) e).value := (value_mul_ten_pow ..).symm
      _ ≤ (Decimal.mk (w * 10 ^ 16) e).value :=
        value_le_value (by rw [Nat.mul_comm]; exact Nat.mul_le_mul_right _ hlower)
  rcases below_or_above_near (w * 10 ^ 16) k e with hnear | hnear
  · exact ⟨_, pattern_of_near hb hvalue hvalue_pos hstep hnear, fitsIn_below hdigits _⟩
  · exact ⟨_, pattern_of_near hb hvalue hvalue_pos hstep hnear, fitsIn_above (by decide) hdigits _⟩

/-! ## The search -/

/-- A decimal that rounds to a pattern with the fewest digits, and of those the nearest to its
value. -/
structure IsShortest (b : ℕ) (d : Decimal) : Prop where
  isNearest : Pattern.IsNearest (d.value * 2 ^ 1074) b
  fewest : ∀ (d' : Decimal) n, Pattern.IsNearest (d'.value * 2 ^ 1074) b → d'.FitsIn n → d.FitsIn n
  nearest : ∀ d' : Decimal, Pattern.IsNearest (d'.value * 2 ^ 1074) b →
    (∀ n, d.FitsIn n → d'.FitsIn n) →
      |d.value * 2 ^ 1074 - Pattern.units b| ≤ |d'.value * 2 ^ 1074 - Pattern.units b|

theorem IsShortest.congr {d' : Decimal} (h : d.IsShortest b) (hvalue : d.value = d'.value) :
    d'.IsShortest b := by
  have hfits {n : ℕ} : d.FitsIn n ↔ d'.FitsIn n := by rw [FitsIn, FitsIn, hvalue]
  refine ⟨hvalue ▸ h.isNearest, fun x n hx hn => hfits.mp (h.fewest x n hx hn), fun x hx hn => ?_⟩
  rw [← hvalue]
  exact h.nearest x hx fun n hd => hn n (hfits.mp hd)

/-- The first grid on which a decimal is found. -/
theorem exists_findSome?_range {α : Type} {f : ℕ → Option α} {i m : ℕ} (hi : i < m)
    (h : (f i).isSome) : ∃ j x, f j = some x ∧ (List.range m).findSome? f = some x ∧ j < m ∧
      ∀ i < m, (f i).isSome → j ≤ i := by
  obtain ⟨x, hx⟩ : ∃ x, (List.range m).findSome? f = some x :=
    Option.isSome_iff_exists.mp (List.findSome?_isSome_iff.mpr ⟨i, List.mem_range.mpr hi, h⟩)
  obtain ⟨before, j, after, hrange, hj, hnone⟩ := List.findSome?_eq_some_iff.mp hx
  have hmem : j ∈ before ++ j :: after := List.mem_append_right _ List.mem_cons_self
  refine ⟨j, x, hj, hx, List.mem_range.mp (hrange ▸ hmem), ?_⟩
  -- what stands after `j` is greater, and before it nothing is found
  intro i hi hsome
  have hsorted : (List.range m).Pairwise (· < ·) := List.pairwise_lt_range
  rw [hrange, List.pairwise_append, List.pairwise_cons] at hsorted
  rcases List.mem_append.mp (hrange ▸ List.mem_range.mpr hi : i ∈ before ++ j :: after) with
    hbefore | hrest
  · rw [hnone i hbefore] at hsome
    cases hsome
  · rcases List.mem_cons.mp hrest with rfl | hafter
    · exact le_refl _
    · exact (hsorted.2.1.1 i hafter).le

/-- The bounds that the number of digits gives. -/
theorem lt_ten_pow_length (w : ℕ) : w < 10 ^ (digits w).length :=
  (Nat.length_toDigits_le_iff (by decide) (List.length_pos_of_ne_nil Nat.toDigits_ne_nil)).mp
    (le_refl _)

theorem ten_pow_length_le (hw : w ≠ 0) : 10 ^ ((digits w).length - 1) ≤ w := by
  rcases Nat.eq_zero_or_pos ((digits w).length - 1) with hone | hmore
  · rw [hone]
    exact Nat.one_le_iff_ne_zero.mpr hw
  · by_contra hlt
    have hshort := (Nat.length_toDigits_le_iff (by decide) hmore).mpr (Nat.lt_of_not_le hlt)
    rw [← digits] at hshort
    omega

theorem shortest_of_ne_zero (h : b ≠ 0) : shortest b =
    ((List.range 17).findSome? fun i => onGrid? b (exact b).coefficient (exact b).exponent
      ((digits (exact b).coefficient).length - (i + 1))).getD (exact b) :=
  if_neg h

/-- **The search** ends on the grid of the fewest digits that serve. -/
theorem exists_onGrid?_shortest (hb : b ≤ Pattern.infinity) (hzero : b ≠ 0)
    (hexact : exact b = ⟨w, e⟩) :
    ∃ j, onGrid? b w e ((digits w).length - (j + 1)) = some (shortest b) ∧
      ∀ (d : Decimal) n, d.pattern = b → d.FitsIn n → j < n := by
  have hvalue : (Decimal.mk w e).pattern = b := hexact ▸ pattern_exact hb
  have hw : w ≠ 0 := ne_zero_of_pattern hvalue hzero
  have hgrid {d : Decimal} {n : ℕ} (hd : d.pattern = b) (hfits : d.FitsIn n) :
      0 < n ∧ (onGrid? b w e ((digits w).length - (n - 1 + 1))).isSome := by
    have hpos : 0 < n := pos_of_fitsIn hfits (hd ▸ hzero)
    rw [Nat.sub_add_cancel hpos]
    exact ⟨hpos, isSome_onGrid?_of_fitsIn hpos (ten_pow_length_le hw) hvalue hd hfits⟩
  obtain ⟨d, hd, hfits⟩ := exists_seventeen_digits hb
  obtain ⟨j, x, hx, hfound, hj, hleast⟩ := exists_findSome?_range
    (f := fun i => onGrid? b w e ((digits w).length - (i + 1))) (by decide : 17 - 1 < 17)
    (hgrid hd hfits).2
  refine ⟨j, ?_, fun d' n hd' hfits' => ?_⟩
  · rw [shortest_of_ne_zero hzero, hexact, hfound, Option.getD_some, hx]
  · obtain ⟨hpos, hsome'⟩ := hgrid hd' hfits'
    rcases Nat.lt_or_ge (n - 1) 17 with hlt | hge
    · have hle := hleast (n - 1) hlt hsome'
      omega
    · omega

/-- **The shortest decimal** of a pattern is what the search finds. -/
theorem isShortest_shortest (hb : b ≤ Pattern.infinity) : (shortest b).IsShortest b := by
  have hread := isNearest_iff_pattern.mpr (pattern_shortest hb)
  by_cases hzero : b = 0
  · subst hzero
    have hvalue : (shortest 0).value = 0 := by
      rw [shortest, if_pos rfl, value, Nat.cast_zero, zero_mul]
    have hunits : Pattern.units 0 = 0 := rfl
    refine ⟨hread, fun d' n _ _ => ⟨0, Nat.pow_pos (by decide), 0, rfl⟩, fun d' _ _ => ?_⟩
    rw [hvalue, hunits, zero_mul, Nat.cast_zero, sub_zero, abs_zero]
    exact abs_nonneg _
  have hvalue := value_exact b
  obtain ⟨w, e, hexact⟩ : ∃ w e, exact b = ⟨w, e⟩ := ⟨_, _, rfl⟩
  obtain ⟨j, hfound, hleast⟩ := exists_onGrid?_shortest hb hzero hexact
  have hw : (Decimal.mk w e).pattern = b := hexact ▸ pattern_exact hb
  -- the exact decimal itself is on no coarser grid than the one that was found
  have hlength : j < (digits w).length :=
    hleast _ _ hw ⟨w, lt_ten_pow_length w, e, rfl⟩
  have hfits : (shortest b).FitsIn (j + 1) := by
    have hupper : w < 10 ^ (j + 1 + ((digits w).length - (j + 1))) := by
      rw [Nat.add_sub_cancel' hlength]
      exact lt_ten_pow_length w
    rcases onGrid?_cases hfound with ⟨heq, -⟩ | ⟨heq, -⟩
    · exact heq ▸ fitsIn_below hupper _
    · exact heq ▸ fitsIn_above (Nat.succ_pos j) hupper _
  refine ⟨hread, fun d' n hd' hfits' => ?_, fun d' hd' hfew => ?_⟩
  · exact hfits.mono (hleast d' n (isNearest_iff_pattern.mp hd') hfits')
  · obtain ⟨c, hc, e', hvalue'⟩ := hfew _ hfits
    have hlower : 10 ^ (j + 1 - 1 + ((digits w).length - (j + 1))) ≤ w := by
      rw [show j + 1 - 1 + ((digits w).length - (j + 1)) = (digits w).length - 1 by omega]
      exact ten_pow_length_le (ne_zero_of_pattern hw hzero)
    -- a competitor with as few digits is not between the two candidates
    have hside := le_below_or_above_le hc hlower (Nat.succ_pos j) e e'
    rw [← hvalue'] at hside
    have hunit : (0 : ℚ) ≤ 2 ^ 1074 := by positivity
    rw [← hvalue, hexact, ← sub_mul, ← sub_mul, abs_mul, abs_mul]
    exact mul_le_mul_of_nonneg_right
      (abs_sub_le_of_onGrid? hfound hw (isNearest_iff_pattern.mp hd') hside) (abs_nonneg _)

end Decimal

end Calculator
