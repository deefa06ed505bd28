import Mathlib
import Calculator.Number.Decimal

/-!
# Nearest patterns

A fraction is rounded to the nearest pattern, the even one of two that are equally near.  Infinity
takes part with the value that the next pattern would have.  There is one such pattern for each
value, and a greater value never has a smaller one.

## Main definitions

* `Pattern.IsNearest u b`: the pattern `b` is the nearest one to `u` units, ties to even

## Main results

* `Pattern.units_succ`, `Pattern.units_strictMono`: the gaps between patterns
* `Pattern.IsNearest.unique`, `Pattern.IsNearest.mono`: one pattern for each value, in order
* `Pattern.isNearest_infinity_iff`: the values that are rounded to infinity
* `Pattern.isNearest_nearest`: a fraction is rounded to the nearest pattern
* `Pattern.nearest_of_le_log2`, `Pattern.nearest_of_lt`: fractions that are huge or tiny
-/

namespace Calculator

namespace Pattern

variable {a b num den : ℕ} {u v : ℚ}

/-! ## Gaps -/

theorem doublings_mul_add_significand (b : Nat) :
    doublings b * fractions + significand b = b := by
  unfold doublings significand fractions
  split <;> omega

theorem significand_lt (b : Nat) : significand b < 2 ^ 53 := by
  unfold significand fractions
  split <;> omega

theorem le_significand (h : doublings b ≠ 0) : 2 ^ 52 ≤ significand b := by
  unfold doublings fractions at h
  unfold significand fractions
  split <;> omega

/-- The value of a pattern with a given fraction, which may have grown past its last value. -/
theorem units_mul_add {shift fraction : ℕ} (hle : fraction ≤ 2 ^ 53)
    (hshift : shift = 0 ∨ 2 ^ 52 ≤ fraction) :
    units (shift * fractions + fraction) = fraction * 2 ^ shift := by
  rcases Nat.lt_or_ge fraction (2 ^ 53) with hlt | hge
  · have hdoublings : doublings (shift * fractions + fraction) = shift := by
      unfold doublings fractions
      omega
    have hsignificand := doublings_mul_add_significand (shift * fractions + fraction)
    rw [hdoublings] at hsignificand
    rw [units, hdoublings, Nat.shiftLeft_eq, Nat.add_left_cancel hsignificand]
  · -- the next exponent field, with no fraction
    obtain rfl : fraction = 2 ^ 53 := Nat.le_antisymm hle hge
    have hdoublings : doublings (shift * fractions + 2 ^ 53) = shift + 1 := by
      unfold doublings fractions
      omega
    have hsignificand := doublings_mul_add_significand (shift * fractions + 2 ^ 53)
    rw [hdoublings, Nat.succ_mul, Nat.add_assoc] at hsignificand
    have hhalf : significand (shift * fractions + 2 ^ 53) = 2 ^ 52 :=
      Nat.add_left_cancel (Nat.add_left_cancel hsignificand)
    rw [units, hdoublings, hhalf, Nat.shiftLeft_eq]
    ring

/-- **The gap** after a pattern is as wide as its fraction is coarse. -/
theorem units_succ (b : ℕ) : units (b + 1) = units b + 2 ^ doublings b := by
  have hshift : doublings b = 0 ∨ 2 ^ 52 ≤ significand b + 1 := by
    by_cases h : doublings b = 0
    · exact .inl h
    · exact .inr (Nat.le_succ_of_le (le_significand h))
  have hnext := units_mul_add (Nat.succ_le_of_lt (significand_lt b)) hshift
  rw [Nat.succ_eq_add_one, ← Nat.add_assoc, doublings_mul_add_significand] at hnext
  rw [hnext, units, Nat.shiftLeft_eq, Nat.add_one_mul]

theorem units_strictMono : StrictMono units :=
  strictMono_nat_of_lt_succ fun b => by
    rw [units_succ]
    exact Nat.lt_add_of_pos_right (Nat.two_pow_pos _)

theorem cast_units_lt (h : a < b) : (units a : ℚ) < units b := by
  exact_mod_cast units_strictMono h

theorem cast_units_le (h : a ≤ b) : (units a : ℚ) ≤ units b := by
  exact_mod_cast units_strictMono.monotone h

/-- A double is at most `2 ^ 53` times as large as the gap before it. -/
theorem units_succ_le (b : ℕ) : units (b + 1) ≤ 2 ^ 53 * (units (b + 1) - units b) := by
  have hfraction : significand b + 1 ≤ 2 ^ 53 := significand_lt b
  rw [units_succ, Nat.add_sub_cancel_left, units, Nat.shiftLeft_eq, ← Nat.add_one_mul]
  exact Nat.mul_le_mul_right _ hfraction

/-- The gap after a double is wide enough for the same bound. -/
theorem units_le (b : ℕ) : units b ≤ 2 ^ 53 * (units (b + 1) - units b) :=
  Nat.le_trans (units_strictMono.monotone (Nat.le_succ b)) (units_succ_le b)

/-! ## Nearest patterns -/

/-- The pattern `b` is the nearest one to `u` units, and it is even if another one is as near. -/
structure IsNearest (u : ℚ) (b : ℕ) : Prop where
  le_infinity : b ≤ infinity
  nearest : ∀ a ≤ infinity, |u - units b| ≤ |u - units a|
  even : ∀ a ≤ infinity, a ≠ b → |u - units b| = |u - units a| → Even b

section Distance

variable {x y : ℚ}

theorem abs_sub_le_iff_add_le (h : x < y) : |u - y| ≤ |u - x| ↔ x + y ≤ 2 * u := by
  rw [← sq_le_sq]
  constructor
  · intro hsq
    nlinarith
  · intro hmid
    nlinarith

theorem abs_sub_le_iff_le_add (h : x < y) : |u - x| ≤ |u - y| ↔ 2 * u ≤ x + y := by
  rw [← sq_le_sq]
  constructor
  · intro hsq
    nlinarith
  · intro hmid
    nlinarith

end Distance

/-- A pattern is the nearest one if the value lies between the middles of the gaps around it, at an
even pattern perhaps on them. -/
theorem isNearest_of_between (hb : b ≤ infinity)
    (hlower : ∀ a, a + 1 = b → (units a + units b : ℚ) ≤ 2 * u ∧
      ((units a + units b : ℚ) = 2 * u → Even b))
    (hupper : b < infinity → 2 * u ≤ units b + units (b + 1) ∧
      (2 * u = units b + units (b + 1) → Even b)) : IsNearest u b := by
  -- a pattern that is not a neighbour lies beyond one
  have hbefore {a : ℕ} (ha : a < b) : |u - units b| ≤ |u - units a| ∧
      (|u - units b| = |u - units a| → Even b) := by
    obtain ⟨p, rfl⟩ : ∃ p, b = p + 1 := ⟨b - 1, by omega⟩
    have hp := cast_units_le (Nat.le_of_lt_succ ha)
    have hlt := cast_units_lt ha
    obtain ⟨hmid, heven⟩ := hlower p rfl
    refine ⟨(abs_sub_le_iff_add_le hlt).mpr (by linarith), fun heq => heven ?_⟩
    have hother := (abs_sub_le_iff_le_add hlt).mp heq.ge
    linarith
  have hbehind {a : ℕ} (ha : b < a) (hle : a ≤ infinity) : |u - units b| ≤ |u - units a| ∧
      (|u - units b| = |u - units a| → Even b) := by
    have hp := cast_units_le (Nat.succ_le_of_lt ha)
    have hlt := cast_units_lt ha
    obtain ⟨hmid, heven⟩ := hupper (Nat.lt_of_lt_of_le ha hle)
    refine ⟨(abs_sub_le_iff_le_add hlt).mpr (by linarith), fun heq => heven ?_⟩
    have hother := (abs_sub_le_iff_add_le hlt).mp heq.ge
    linarith
  refine ⟨hb, fun a ha => ?_, fun a ha hne heq => ?_⟩
  · rcases Nat.lt_trichotomy a b with hlt | rfl | hlt
    · exact (hbefore hlt).1
    · exact le_refl _
    · exact (hbehind hlt ha).1
  · rcases Nat.lt_or_gt_of_ne hne with hlt | hlt
    · exact (hbefore hlt).2 heq
    · exact (hbehind hlt ha).2 heq

/-- There is one nearest pattern. -/
theorem IsNearest.unique (h : IsNearest u a) (h' : IsNearest u b) : a = b := by
  by_contra hne
  wlog hlt : a < b generalizing a b
  · exact this h' h (Ne.symm hne) (by omega)
  -- both are even, so a pattern between them is nearer
  have heq : |u - units a| = |u - units b| :=
    le_antisymm (h.nearest b h'.le_infinity) (h'.nearest a h.le_infinity)
  obtain ⟨i, rfl⟩ := h.even b h'.le_infinity (Ne.symm hne) heq
  obtain ⟨j, rfl⟩ := h'.even (i + i) h.le_infinity hne heq.symm
  have hnext := cast_units_lt (Nat.lt_succ_self (i + i))
  have hlast := cast_units_lt (by omega : i + i + 1 < j + j)
  have hle := (abs_sub_le_iff_le_add hnext).mp
    (h.nearest (i + i + 1) (le_trans (by omega) h'.le_infinity))
  have hge := (abs_sub_le_iff_add_le (hnext.trans hlast)).mp heq.ge
  linarith

/-- A greater value has no smaller pattern. -/
theorem IsNearest.mono (h : IsNearest u a) (h' : IsNearest v b) (hle : u ≤ v) : a ≤ b := by
  by_contra hlt
  have hunits := cast_units_lt (Nat.lt_of_not_le hlt)
  -- then both values lie on the middle between the two patterns
  have hlower := (abs_sub_le_iff_add_le hunits).mp (h.nearest b h'.le_infinity)
  have hupper := (abs_sub_le_iff_le_add hunits).mp (h'.nearest a h.le_infinity)
  obtain rfl : u = v := le_antisymm hle (by linarith)
  exact hlt (h.unique h').le

/-- A pattern is the nearest one to its own value. -/
theorem isNearest_units (hb : b ≤ infinity) : IsNearest (units b) b := by
  refine ⟨hb, fun a _ => ?_, fun a _ hne heq => ?_⟩
  · rw [sub_self, abs_zero]
    exact abs_nonneg _
  · rw [sub_self, abs_zero, eq_comm, abs_eq_zero, sub_eq_zero, Nat.cast_inj] at heq
    exact absurd (units_strictMono.injective heq.symm) hne

/-- From infinity on there is nothing above. -/
theorem isNearest_infinity (h : (units infinity : ℚ) ≤ u) : IsNearest u infinity := by
  refine isNearest_of_between le_rfl ?_ fun hlt => absurd hlt (Nat.lt_irrefl _)
  intro a ha
  have hprevious := cast_units_lt (Nat.lt_succ_self a)
  rw [Nat.succ_eq_add_one, ha] at hprevious
  exact ⟨by linarith, fun heq => absurd heq (by linarith)⟩

/-- The middle of the gap before infinity. -/
theorem units_add_units_infinity :
    (units (infinity - 1) + units infinity : ℚ) = 2 * ((2 ^ 1024 - 2 ^ 970) * 2 ^ 1074) := by
  have hbefore : infinity - 1 = 2045 * fractions + (2 ^ 53 - 1) := by decide
  have hinfinity : infinity = 2045 * fractions + 2 ^ 53 := by decide
  have hpower : (2 : ℚ) ^ 2045 = 2 * 2 ^ 970 * 2 ^ 1074 := by
    rw [← pow_succ', ← pow_add]
  have htop : (2 : ℚ) ^ 1024 = 2 ^ 54 * 2 ^ 970 := by
    rw [← pow_add]
  rw [hbefore, hinfinity, units_mul_add (by decide) (by decide), units_mul_add le_rfl (by decide),
    Nat.cast_mul, Nat.cast_mul, Nat.cast_pow, Nat.cast_ofNat, hpower, htop]
  generalize (2 : ℚ) ^ 970 = x
  generalize (2 : ℚ) ^ 1074 = y
  norm_num
  ring

/-- **The range of doubles** ends in the middle of the gap before infinity, the pattern of which is
even. -/
theorem isNearest_infinity_iff :
    IsNearest (v * 2 ^ 1074) infinity ↔ 2 ^ 1024 - 2 ^ 970 ≤ v := by
  have hgap : infinity - 1 < infinity := by decide
  have hpos : (0 : ℚ) < 2 ^ 1074 := by positivity
  have hmiddle : (units (infinity - 1) + units infinity : ℚ) ≤ 2 * (v * 2 ^ 1074) ↔
      2 ^ 1024 - 2 ^ 970 ≤ v := by
    rw [units_add_units_infinity, mul_le_mul_iff_of_pos_left two_pos,
      mul_le_mul_iff_of_pos_right hpos]
  rw [← hmiddle]
  constructor
  · intro h
    exact (abs_sub_le_iff_add_le (cast_units_lt hgap)).mp (h.nearest _ hgap.le)
  · intro h
    refine isNearest_of_between le_rfl (fun a ha => ?_) fun hlt => absurd hlt (Nat.lt_irrefl _)
    obtain rfl : a = infinity - 1 := Nat.eq_sub_of_add_eq ha
    exact ⟨h, fun _ => by decide⟩

/-- **Within `2 ^ -54`** of a double no other one is as near. -/
theorem isNearest_of_near (hb : b ≤ infinity) (hnear : 2 ^ 54 * |u - units b| < units b) :
    IsNearest u b := by
  -- the gaps on both sides are wide enough for the half of one to be out of reach
  have hgap {a : ℕ} (h : units b ≤ 2 ^ 53 * (units (a + 1) - units a)) :
      2 * |u - units b| < units (a + 1) - units a := by
    have hlt : units a < units (a + 1) := units_strictMono (Nat.lt_succ_self a)
    have hcast : (units b : ℚ) ≤ 2 ^ 53 * (units (a + 1) - units a) := by
      rw [← Nat.cast_sub hlt.le]
      exact_mod_cast h
    linarith
  refine isNearest_of_between hb ?_ fun _ => ?_
  · rintro a rfl
    have hbelow := hgap (units_succ_le a)
    have hdist := neg_abs_le (u - units (a + 1))
    exact ⟨by linarith, fun heq => absurd heq (by linarith)⟩
  · have habove := hgap (units_le b)
    have hdist := le_abs_self (u - units b)
    exact ⟨by linarith, fun heq => absurd heq (by linarith)⟩

/-! ## Rounding a fraction -/

/-- The quotient cut to its leading bits is the fraction of the pattern below. -/
theorem leading_bits (q : ℕ) : q >>> (q.log2 - 52) < 2 ^ 53 ∧
    (q.log2 - 52 = 0 ∨ 2 ^ 52 ≤ q >>> (q.log2 - 52)) := by
  rw [Nat.shiftRight_eq_div_pow]
  constructor
  · rw [Nat.div_lt_iff_lt_mul (Nat.two_pow_pos _), ← Nat.pow_add]
    exact Nat.lt_of_lt_of_le Nat.lt_log2_self (Nat.pow_le_pow_right (by decide) (by omega))
  · by_cases hshift : q.log2 - 52 = 0
    · exact .inl hshift
    · have hne : q ≠ 0 := by
        rintro rfl
        exact hshift (by decide)
      have hlog : 52 + (q.log2 - 52) = q.log2 := by omega
      rw [Nat.le_div_iff_mul_le (Nat.two_pow_pos _), ← Nat.pow_add, hlog]
      exact .inr (Nat.log2_self_le hne)

/-- **Rounding** finds the two patterns around a fraction, and takes the upper one if the fraction
lies past the middle between them, or on it and the lower one is odd. -/
theorem nearest_cases (num : ℕ) (hden : 0 < den) : ∃ b,
    units b * den ≤ num ∧ num < units (b + 1) * den ∧
    nearest num den = min (if units b * den + units (b + 1) * den < 2 * num ∨
      units b * den + units (b + 1) * den = 2 * num ∧ b % 2 = 1 then b + 1 else b) infinity := by
  obtain ⟨hlt, hshift⟩ := leading_bits (num / den)
  have hunits := units_mul_add hlt.le hshift
  have hnext := units_mul_add (Nat.add_one_le_of_lt hlt) (hshift.imp_right Nat.le_succ_of_le)
  rw [nearest]
  generalize (num / den).log2 - 52 = shift at *
  have hlower : (num / den) >>> shift * 2 ^ shift * den ≤ num := by
    rw [Nat.shiftRight_eq_div_pow, ← Nat.le_div_iff_mul_le hden]
    exact Nat.div_mul_le_self _ _
  have hupper : num < ((num / den) >>> shift + 1) * 2 ^ shift * den := by
    rw [Nat.shiftRight_eq_div_pow, ← Nat.div_lt_iff_lt_mul hden]
    exact Nat.lt_mul_of_div_lt (Nat.lt_succ_self _) (Nat.two_pow_pos _)
  -- a step is the distance of the two patterns, and the remainder is counted from the lower one
  have hstep : (num / den) >>> shift * den <<< shift = (num / den) >>> shift * 2 ^ shift * den := by
    rw [Nat.shiftLeft_eq, Nat.mul_comm den, Nat.mul_assoc]
  have hgap : ((num / den) >>> shift + 1) * 2 ^ shift * den =
      (num / den) >>> shift * 2 ^ shift * den + den <<< shift := by
    rw [Nat.shiftLeft_eq]
    ring
  refine ⟨shift * fractions + (num / den) >>> shift, by rwa [hunits], ?_, ?_⟩
  · rwa [Nat.add_assoc, hnext]
  · rw [Nat.add_assoc _ _ 1, hunits, hnext]
    simp only [Bool.or_eq_true, Bool.and_eq_true, decide_eq_true_eq]
    rw [hstep, hgap]
    congr 1
    apply if_congr _ rfl rfl
    omega

/-- **A fraction** is rounded to the nearest pattern. -/
theorem isNearest_nearest (num : ℕ) (hden : 0 < den) :
    IsNearest (num / den) (nearest num den) := by
  obtain ⟨b, hlower, hupper, hnearest⟩ := nearest_cases num hden
  have hpos : (0 : ℚ) < den := by exact_mod_cast hden
  have hle : (units b : ℚ) ≤ num / den := (le_div_iff₀ hpos).mpr (by exact_mod_cast hlower)
  have hlt : (num / den : ℚ) < units (b + 1) := (div_lt_iff₀ hpos).mpr (by exact_mod_cast hupper)
  -- what the computation compares, as values
  have hpast : units b * den + units (b + 1) * den < 2 * num ↔
      (units b + units (b + 1) : ℚ) < 2 * (num / den) := by
    rw [← mul_div_assoc, lt_div_iff₀ hpos, add_mul]
    norm_cast
  have hmiddle : units b * den + units (b + 1) * den = 2 * num ↔
      (units b + units (b + 1) : ℚ) = 2 * (num / den) := by
    rw [← mul_div_assoc, eq_div_iff hpos.ne', add_mul]
    norm_cast
  rw [hnearest]
  generalize (num / den : ℚ) = u at *
  rcases Nat.lt_or_ge b infinity with hfinite | hover
  · rw [Nat.min_eq_left (by split <;> omega)]
    split
    · rename_i hup
      rw [hpast, hmiddle] at hup
      refine isNearest_of_between hfinite ?_ fun _ => ?_
      · rintro a ha
        obtain rfl : a = b := Nat.succ_injective ha
        refine ⟨hup.elim le_of_lt fun h => h.1.le, fun heq => ?_⟩
        have hodd : a % 2 = 1 := (hup.resolve_left (by linarith)).2
        exact Nat.even_iff.mpr (by omega)
      · have hnext := cast_units_lt (Nat.lt_succ_self (b + 1))
        exact ⟨by linarith, fun heq => absurd heq (by linarith)⟩
    · rename_i hdown
      rw [hpast, hmiddle, not_or, not_lt] at hdown
      refine isNearest_of_between hfinite.le ?_ fun _ => ?_
      · rintro a rfl
        have hprevious := cast_units_lt (Nat.lt_succ_self a)
        exact ⟨by linarith, fun heq => absurd heq (by linarith)⟩
      · refine ⟨hdown.1, fun heq => ?_⟩
        have heven : ¬ b % 2 = 1 := fun hodd => hdown.2 ⟨heq.symm, hodd⟩
        exact Nat.even_iff.mpr (by omega)
  · rw [Nat.min_eq_right (by split <;> omega)]
    exact isNearest_infinity ((cast_units_le hover).trans hle)

/-! ## Huge and tiny fractions -/

theorem nearest_of_le_log2 (h : 2099 ≤ num.log2) : nearest num 1 = infinity := by
  have hbelow : infinity ≤ (num.log2 - 52) * fractions + num >>> (num.log2 - 52) := by
    have : 2047 * fractions ≤ (num.log2 - 52) * fractions := Nat.mul_le_mul_right _ (by omega)
    exact Nat.le_trans this (Nat.le_add_right _ _)
  simp only [nearest, Nat.div_one]
  split
  · exact Nat.min_eq_right (Nat.le_succ_of_le hbelow)
  · exact Nat.min_eq_right hbelow

theorem nearest_of_lt (h : 2 * num < den) : nearest num den = 0 := by
  have hquotient : num / den = 0 := Nat.div_eq_of_lt (by omega)
  have hlog : Nat.log2 0 = 0 := by decide
  have hdown : ¬ den < 2 * num := by omega
  have hne : ¬ den = 2 * num := by omega
  simp [nearest, hquotient, hlog, hdown, hne]

end Pattern

end Calculator
