import Mathlib
import Calculator.Cursor

/-!
# Reading heads

A head counts its index from the beginning or from the end of its text.  From the end it comes to
the beginning without noticing, as the index -1 is followed by the index 0.  So from there it reads
the end of the text and then the whole text once more.

## Main definitions

* `Head.InRange`: a head that does not stand before the beginning of its text
* `Head.rest`: what is ahead of a head, by its index

## Main results

* `Head.peek_eq_ok`, `Head.peek_eq_error`: a head sees the next character that is ahead of it, and
  none before the beginning
* `Head.rest_eq_cons`, `Head.rest_advance`: what is ahead after a character was asked for
* `Head.peek_iterate_advance`: what a head answers with, one character after the other
* `Head.readAll_eq_ok`: all that it answers with up to the end of the text
-/

namespace Calculator

namespace Head

variable {h : Head} {c : Char} {seen : Option Char}

/-- The head does not stand before the beginning of its text. -/
def InRange (h : Head) : Prop :=
  -(h.chars.length : Int) ≤ h.index

/-- The characters ahead.  At an index that counts from the end these are the end of the text and
then the whole text. -/
def rest (h : Head) : List Char :=
  if h.index < 0 then h.chars.drop (h.chars.length + h.index).toNat ++ h.chars
  else h.chars.drop h.index.toNat

theorem rest_ofStart (text : String) (start : Nat) :
    (ofStart text start).rest = text.toList.drop start :=
  if_neg (Int.not_lt.mpr (Int.natCast_nonneg start))

theorem inRange_ofStart (text : String) (start : Nat) : (ofStart text start).InRange := by
  rw [InRange]
  exact Int.le_trans (Int.neg_nonpos_of_nonneg (Int.natCast_nonneg _)) (Int.natCast_nonneg start)

/-! ## One character -/

theorem charAt_of_getElem? {chars : List Char} {index : Int} {n : Nat}
    (hplace : (if index < 0 then index + chars.length else index) = n) (hc : chars[n]? = some c) :
    charAt chars index = .ok c := by
  rw [charAt, hplace]
  simp [hc]

/-- **A head sees** the first of the characters ahead of it. -/
theorem peek_eq_ok (hrange : h.InRange) : h.peek = .ok h.rest.head? := by
  rw [InRange] at hrange
  rw [peek]
  by_cases hlt : h.index < h.chars.length
  · -- the place that the index stands for is one of the text
    obtain ⟨n, hplace⟩ : ∃ n : Nat,
        (if h.index < 0 then h.index + h.chars.length else h.index) = n := by
      refine Int.eq_ofNat_of_zero_le ?_
      split <;> omega
    have hn : n < h.chars.length := by
      split at hplace <;> omega
    have hhead : h.rest.head? = some h.chars[n] := by
      rw [← List.getElem?_eq_getElem hn, ← List.head?_drop, rest]
      split at hplace
      · have hdrop : (h.chars.length + h.index).toNat = n := by omega
        rw [if_pos ‹_›, hdrop, List.head?_append_of_ne_nil]
        exact List.drop_eq_nil_iff.not.mpr (Nat.not_le_of_lt hn)
      · have hdrop : h.index.toNat = n := by omega
        rw [if_neg ‹_›, hdrop]
    rw [if_pos hlt, charAt_of_getElem? hplace (List.getElem?_eq_getElem hn), hhead]
    rfl
  · rw [if_neg hlt, rest, if_neg (by omega), List.drop_eq_nil_of_le (by omega)]
    rfl

/-- **Before the beginning** of the text a head sees nothing. -/
theorem peek_eq_error (hrange : ¬ h.InRange) : h.peek = .error .outOfRange := by
  rw [InRange] at hrange
  have hlt : h.index < h.chars.length := by omega
  have hnegative : h.index < 0 := by omega
  have hplace : h.index + h.chars.length < 0 := by omega
  simp only [peek, charAt, hlt, hnegative, hplace, if_true]
  rfl

theorem inRange_of_peek (hpeek : h.peek = .ok seen) : h.InRange := by
  by_contra hrange
  rw [peek_eq_error hrange] at hpeek
  cases hpeek

theorem peek_cases (hrange : h.InRange) : h.peek = .ok none ∨ ∃ c, h.peek = .ok (some c) := by
  rw [peek_eq_ok hrange]
  cases h.rest.head? with
  | none => exact .inl rfl
  | some c => exact .inr ⟨c, rfl⟩

theorem head?_rest (hpeek : h.peek = .ok seen) : h.rest.head? = seen :=
  Except.ok.inj ((peek_eq_ok (inRange_of_peek hpeek)).symm.trans hpeek)

theorem rest_eq_nil (hpeek : h.peek = .ok none) : h.rest = [] :=
  List.head?_eq_none_iff.mp (head?_rest hpeek)

/-! ## One step -/

theorem index_advance_of_some (hpeek : h.peek = .ok (some c)) :
    h.advance.index = h.index + 1 := by
  simp only [advance, hpeek]

theorem index_advance_of_none (hpeek : h.peek = .ok none) : h.advance.index = h.index := by
  simp only [advance, hpeek]

theorem index_advance_of_error (hpeek : h.peek = .error .outOfRange) :
    h.advance.index = h.index := by
  simp only [advance, hpeek]

theorem InRange.advance (hrange : h.InRange) : h.advance.InRange := by
  have hchars : h.advance.chars = h.chars := rfl
  rw [InRange] at hrange ⊢
  rw [hchars]
  rcases hpeek : h.peek with ⟨⟩ | ⟨_ | c⟩
  · rwa [index_advance_of_error hpeek]
  · rwa [index_advance_of_none hpeek]
  · rw [index_advance_of_some hpeek]
    omega

theorem not_inRange_advance (hrange : ¬ h.InRange) : ¬ h.advance.InRange := by
  have hchars : h.advance.chars = h.chars := rfl
  rwa [InRange, hchars, index_advance_of_error (peek_eq_error hrange)]

/-- **One step** leaves one character less ahead, from the end of the text to its beginning too. -/
theorem rest_advance (hrange : h.InRange) : h.advance.rest = h.rest.drop 1 := by
  have hchars : h.advance.chars = h.chars := rfl
  have hpeek := peek_eq_ok hrange
  cases hhead : h.rest.head? with
  | none =>
    rw [hhead] at hpeek
    have hrest : h.advance.rest = h.rest := by
      rw [rest, rest, hchars, index_advance_of_none hpeek]
    rw [hrest, List.head?_eq_none_iff.mp hhead]
    rfl
  | some c =>
    rw [hhead] at hpeek
    rw [InRange] at hrange
    rw [rest, rest, hchars, index_advance_of_some hpeek]
    by_cases hnegative : h.index < 0
    · rw [if_pos hnegative, List.drop_append_of_le_length (by simp; omega), List.drop_drop]
      by_cases hlast : h.index + 1 < 0
      · rw [if_pos hlast]
        congr 2
        omega
      · -- the last character is followed by the first one
        have hindex : h.index + 1 = 0 := by omega
        have hdrop : h.chars.length ≤ (h.chars.length + h.index).toNat + 1 := by omega
        rw [if_neg hlast, hindex, List.drop_eq_nil_of_le hdrop]
        rfl
    · rw [if_neg hnegative, if_neg (by omega), List.drop_drop]
      congr 1
      omega

theorem rest_eq_cons (hpeek : h.peek = .ok (some c)) : h.rest = c :: h.advance.rest := by
  obtain ⟨cs, hcs⟩ := List.head?_eq_some_iff.mp (head?_rest hpeek)
  rw [rest_advance (inRange_of_peek hpeek), hcs]
  rfl

/-! ## Many steps -/

theorem offset_iterate_advance (h : Head) (n : Nat) : (advance^[n] h).offset = h.offset + n := by
  induction n generalizing h with
  | zero => exact (Int.add_zero _).symm
  | succ n ih =>
    rw [Function.iterate_succ_apply, ih, Int.natCast_succ, Int.add_comm (n : Int) 1,
      ← Int.add_assoc]
    rfl

/-- **What a head answers with**, whenever it is asked: the characters ahead in their order, and
then that there are none. -/
theorem peek_iterate_advance (hrange : h.InRange) (n : Nat) :
    (advance^[n] h).peek = .ok h.rest[n]? := by
  induction n generalizing h with
  | zero => rw [Function.iterate_zero_apply, peek_eq_ok hrange, List.head?_eq_getElem?]
  | succ n ih =>
    rw [Function.iterate_succ_apply, ih hrange.advance, rest_advance hrange, List.getElem?_drop,
      Nat.add_comm 1 n]

/-- Before the beginning of the text a head stays where it is. -/
theorem peek_iterate_advance_eq_error (hrange : ¬ h.InRange) (n : Nat) :
    (advance^[n] h).peek = .error .outOfRange := by
  induction n generalizing h with
  | zero => exact peek_eq_error hrange
  | succ n ih => exact ih (not_inRange_advance hrange)

/-- Everything that is ahead is read. -/
theorem readAll_eq_ok (hrange : h.InRange) : h.readAll = .ok h.rest := by
  fun_induction readAll h with
  | case1 h e hpeek =>
    rw [peek_eq_ok hrange] at hpeek
    cases hpeek
  | case2 h hpeek => rw [rest_eq_nil hpeek]
  | case3 h c hpeek ih =>
    rw [ih hrange.advance, rest_eq_cons hpeek]
    rfl

theorem readAll_eq_error (hrange : ¬ h.InRange) : h.readAll = .error .outOfRange := by
  have hpeek := peek_eq_error hrange
  fun_cases readAll h with
  | case1 e he => rw [Except.error.inj (he.symm.trans hpeek)]
  | case2 he => cases hpeek.symm.trans he
  | case3 c he => cases hpeek.symm.trans he

end Head

end Calculator
