import Mathlib
import Calculator.Number.Pattern

/-!
# The bits of doubles

A double is determined by its bits, and a finite one without a sign by its pattern.

## Main results

* `ofFloat_lt_infinity`: the pattern of a finite double
* `toFloat_ofFloat`: a double without a sign is what its pattern says
* `isNegative_toFloat`, `ofFloat_toFloat`: a double made of a sign and a pattern has both
* `toFloat_isNegative`: every double is made of its sign and its pattern
* `ofFloat_of_isInf`, `eq_nan_of_isNaN`: the doubles that are not finite
-/

namespace Calculator

open Float.Model Float.Model.UnpackedFloat

theorem toNat_unpackExponent (b : BitVec Format.binary64.numBits) :
    (unpackExponent b).toNat = b.toNat / 2 ^ 52 % 2 ^ 11 := by
  simp [unpackExponent, Nat.shiftRight_eq_div_pow]

theorem not_finite_of_unpackExponent {x : Float}
    (h : @unpackExponent .binary64 x.toBits.toBitVec = -1#11) :
    x.isNaN = true ∨ x.isInf = true := by
  show (UnpackedFloat.unpack .binary64 x.toBits.toBitVec).isNaN = true ∨
    (UnpackedFloat.unpack .binary64 x.toBits.toBitVec).isInf = true
  rw [UnpackedFloat.unpack, if_pos h]
  split
  · exact .inr rfl
  · exact .inl rfl

/-- The pattern of a finite double lies below that of infinity. -/
theorem ofFloat_lt_infinity {x : Float} (hnan : x.isNaN = false) (hinf : x.isInf = false) :
    Pattern.ofFloat x < Pattern.infinity := by
  have hfield := toNat_unpackExponent x.toBits.toBitVec
  have hlt : (@unpackExponent .binary64 x.toBits.toBitVec).toNat < 2 ^ 11 := BitVec.isLt _
  -- only infinity and what is not a number have all bits of the exponent field
  have hne : (@unpackExponent .binary64 x.toBits.toBitVec).toNat ≠ 2047 := by
    intro h
    rcases not_finite_of_unpackExponent (BitVec.eq_of_toNat_eq h) with h | h
    · exact Bool.false_ne_true (hnan.symm.trans h)
    · exact Bool.false_ne_true (hinf.symm.trans h)
  have hbits : x.toBits.toBitVec.toNat = x.toBits.toNat := rfl
  rw [hbits] at hfield
  show x.toBits.toNat % 0x8000000000000000 < 0x7ff * 0x10000000000000
  omega

/-- **Patterns and back**: a double without a sign is what its pattern says. -/
theorem toFloat_ofFloat {x : Float} (hsign : isNegative x = false) :
    Pattern.toFloat false (Pattern.ofFloat x) = x := by
  have hlt : x.toBits.toNat < Pattern.signBit := by simpa [isNegative] using hsign
  rw [Pattern.ofFloat, Nat.mod_eq_of_lt hlt, Pattern.toFloat, if_neg Bool.false_ne_true,
    UInt64.ofNat_toNat, Float.ofBits_toBits]

/-! ## Doubles from a sign and a pattern -/

theorem signBit_eq : Pattern.signBit = 0x8000000000000000 := rfl

theorem toNat_unpackMantissa (b : BitVec Format.binary64.numBits) :
    (unpackMantissa b).toNat = b.toNat % 2 ^ 52 := by
  simp [unpackMantissa]

/-- Bits up to those of infinity are kept. -/
theorem toBits_ofBits {w : UInt64} (h : w.toNat % Pattern.signBit ≤ Pattern.infinity) :
    (Float.ofBits w).toBits = w := by
  have hbits : @isNaNBits .binary64 w.toBitVec = false := by
    rw [isNaNBits, decide_eq_false_iff_not]
    rintro ⟨hexponent, hmantissa⟩
    have hfield := congrArg BitVec.toNat hexponent
    rw [toNat_unpackExponent] at hfield
    -- behind a full exponent field, infinity has no fraction
    apply hmantissa
    apply BitVec.eq_of_toNat_eq
    rw [toNat_unpackMantissa]
    have hfull : (-BitVec.ofNat Format.binary64.exponentBits 1).toNat = 2047 := rfl
    have hw : w.toBitVec.toNat = w.toNat := rfl
    have hzero : (BitVec.ofNat Format.binary64.mantissaBitsWithoutImplicit 0).toNat = 0 := rfl
    rw [hfull] at hfield
    rw [hw] at hfield ⊢
    change w.toNat % 0x8000000000000000 ≤ 0x7ff * 0x10000000000000 at h
    omega
  have hpack := @pack_unpack .binary64 w.toBitVec
  rw [hbits, if_neg Bool.false_ne_true] at hpack
  exact UInt64.toBitVec_inj.mp hpack

/-- The bits of a double made of a sign and a pattern. -/
theorem toNat_toBits_toFloat (negative : Bool) {b : Nat} (hb : b ≤ Pattern.infinity) :
    (Pattern.toFloat negative b).toBits.toNat = if negative then Pattern.signBit + b else b := by
  have hinfinity : Pattern.infinity = 0x7ff0000000000000 := rfl
  have hlt : (if negative then Pattern.signBit + b else b) < 2 ^ 64 := by
    rw [signBit_eq]
    split <;> omega
  have hw : (UInt64.ofNat (if negative then Pattern.signBit + b else b)).toNat =
      if negative then Pattern.signBit + b else b := UInt64.toNat_ofNat_of_lt' hlt
  rw [Pattern.toFloat, toBits_ofBits, hw]
  rw [hw, signBit_eq]
  split <;> omega

/-- The sign of a double made of a sign and a pattern. -/
theorem isNegative_toFloat (negative : Bool) {b : Nat} (hb : b ≤ Pattern.infinity) :
    isNegative (Pattern.toFloat negative b) = negative := by
  have hlt : b < Pattern.signBit := Nat.lt_of_le_of_lt hb (by decide)
  rw [isNegative, toNat_toBits_toFloat negative hb]
  cases negative with
  | false => simpa using hlt
  | true => simp

/-- The pattern of a double made of a sign and a pattern. -/
theorem ofFloat_toFloat (negative : Bool) {b : Nat} (hb : b ≤ Pattern.infinity) :
    Pattern.ofFloat (Pattern.toFloat negative b) = b := by
  have hlt : b < Pattern.signBit := Nat.lt_of_le_of_lt hb (by decide)
  rw [Pattern.ofFloat, toNat_toBits_toFloat negative hb]
  cases negative with
  | false => exact Nat.mod_eq_of_lt hlt
  | true => rw [if_pos rfl, Nat.add_mod_left, Nat.mod_eq_of_lt hlt]

/-- A double is made of its sign and its pattern. -/
theorem toFloat_isNegative (x : Float) :
    Pattern.toFloat (isNegative x) (Pattern.ofFloat x) = x := by
  have hlt : x.toBits.toNat < 2 ^ 64 := x.toBits.toNat_lt
  have hbits : (if isNegative x then Pattern.signBit + Pattern.ofFloat x else Pattern.ofFloat x) =
      x.toBits.toNat := by
    rw [isNegative, Pattern.ofFloat, signBit_eq]
    simp only [decide_eq_true_eq]
    split <;> omega
  rw [Pattern.toFloat, hbits, UInt64.ofNat_toNat, Float.ofBits_toBits]

/-- The pattern of the two infinities. -/
theorem ofFloat_of_isInf {x : Float} (h : x.isInf = true) :
    Pattern.ofFloat x = Pattern.infinity := by
  change (UnpackedFloat.unpack .binary64 x.toBits.toBitVec).isInf = true at h
  rw [UnpackedFloat.unpack] at h
  split at h
  · rename_i hexponent
    split at h
    · rename_i hmantissa
      have hfield := congrArg BitVec.toNat hexponent
      have hzero := congrArg BitVec.toNat hmantissa
      rw [toNat_unpackExponent] at hfield
      rw [toNat_unpackMantissa] at hzero
      have hfull : (-BitVec.ofNat Format.binary64.exponentBits 1).toNat = 2047 := rfl
      have hnone : (BitVec.ofNat Format.binary64.mantissaBitsWithoutImplicit 0).toNat = 0 := rfl
      have hbits : x.toBits.toBitVec.toNat = x.toBits.toNat := rfl
      rw [hfull, hbits] at hfield
      rw [hnone, hbits] at hzero
      show x.toBits.toNat % 0x8000000000000000 = 0x7ff * 0x10000000000000
      omega
    · cases h
  · split at h
    · split at h <;> cases h
    · cases h

/-- There is one double that is not a number. -/
theorem eq_nan_of_isNaN {x : Float} (h : x.isNaN = true) :
    x = Float.ofBits 0x7ff8000000000000 := by
  rw [Float.isNaN_eq_decide_eq_nan] at h
  exact of_decide_eq_true h

end Calculator
