import Calculator.Proofs.Balance
import Calculator.Proofs.Lexemes
import Calculator.Proofs.Scope
import Calculator.Proofs.Grammar

/-!
# Where lexemes stand

The offsets of lexemes are places in the text: what a list of lexemes is made of can be traced back
to the characters, with what stands before and after them.

## Main definitions

* `charSide`, `Located.side`: what a character and a lexeme add to the number of open brackets

## Main results

* `Scans.split`: the characters of one of the lexemes
* `Scans.balanced`: characters are balanced if their lexemes are
* `Reads.balanced`: the lexemes of a scope are balanced
-/

namespace Calculator

open Text

variable {offset : Int} {cs seg rest : List Char} {x : Located}
  {located ws xs : List Located} {ts : List Token}

/-- What a character adds to the number of open brackets. -/
def charSide (c : Char) : Int :=
  if c = '(' then 1 else if c = ')' then -1 else 0

/-- What a lexeme adds to the number of open brackets. -/
def Located.side (x : Located) : Int :=
  x.lexeme.side

theorem charSide_eq_zero {c : Char} (hopening : c ≠ '(') (hclosing : c ≠ ')') : charSide c = 0 := by
  rw [charSide, if_neg hopening, if_neg hclosing]

theorem charSide_of_isDigit {c : Char} (h : c.isDigit = true) : charSide c = 0 :=
  charSide_eq_zero (ne_of_isDigit h rfl) (ne_of_isDigit h rfl)

theorem charSide_of_isAlphanumeric {c : Char} (h : isAlphanumeric c = true) : charSide c = 0 :=
  charSide_eq_zero (ne_of_isAlphanumeric h (by decide)) (ne_of_isAlphanumeric h (by decide))

theorem charSide_of_classify {c : Char} (hopening : classify c ≠ .opening)
    (hclosing : classify c ≠ .closing) : charSide c = 0 := by
  apply charSide_eq_zero <;> rintro rfl
  · exact hopening (by decide)
  · exact hclosing (by decide)

theorem charSide_of_isSpace {c : Char} (h : isSpace c = true) : charSide c = 0 := by
  apply charSide_of_classify <;> simp [classify_of_isSpace h]

theorem charSide_of_mem_point {ds fs : List Char} (hds : ∀ c ∈ ds, c.isDigit)
    (hfs : ∀ c ∈ fs, c.isDigit) : ∀ c ∈ ds ++ '.' :: fs, charSide c = 0 := by
  intro c hc
  rcases List.mem_append.mp hc with hc | hc
  · exact charSide_of_isDigit (hds c hc)
  · rcases List.mem_cons.mp hc with rfl | hc
    · rfl
    · exact charSide_of_isDigit (hfs c hc)

theorem IsNumeral.charSide_eq_zero (h : IsNumeral seg) : ∀ c ∈ seg, charSide c = 0 := by
  cases h with
  | whole hne hds => exact fun c hc => charSide_of_isDigit (hds c hc)
  | point hne hds hfs => exact charSide_of_mem_point hds hfs

/-- What an item is made of: a single bracket, or characters that are none. -/
theorem Forms.side_cases (h : Forms rest seg x) :
    (∃ c, seg = [c] ∧ charSide c = x.side) ∨ x.side = 0 ∧ ∀ c ∈ seg, charSide c = 0 := by
  cases h with
  | lexeme hl =>
    cases hl with
    | number h => exact .inr ⟨rfl, h.charSide_eq_zero⟩
    | identifier hc hcs =>
      refine .inr ⟨rfl, fun d hd => charSide_of_isAlphanumeric ?_⟩
      rcases List.mem_cons.mp hd with rfl | hd
      · exact isAlphanumeric_of_isLetter hc
      · exact hcs d hd
    | operator op => exact .inl ⟨op.symbol, rfl, by cases op <;> rfl⟩
    | opening => exact .inl ⟨'(', rfl, rfl⟩
    | closing => exact .inl ⟨')', rfl, rfl⟩
  | @invalid c hc => exact .inl ⟨c, rfl, charSide_of_classify (by simp [hc]) (by simp [hc])⟩
  | secondPoint hne hds hfs =>
    refine .inr ⟨rfl, fun c hc => ?_⟩
    rcases List.mem_append.mp hc with hc | hc
    · exact charSide_of_mem_point hds hfs c hc
    · obtain rfl : c = '.' := by simpa using hc
      rfl

theorem Forms.depth_eq (h : Forms rest seg x) : depth charSide seg = x.side := by
  rcases h.side_cases with ⟨c, rfl, hc⟩ | ⟨hx, hseg⟩
  · rw [depth_cons, depth_nil, Int.add_zero, hc]
  · rw [depth_eq_zero hseg, hx]

/-- A part of an item opens no bracket. -/
theorem Forms.depth_eq_zero {us vs : List Char} (h : Forms rest (us ++ vs) x) (hvs : vs ≠ []) :
    depth charSide us = 0 := by
  rcases h.side_cases with ⟨c, hc, -⟩ | ⟨-, hseg⟩
  · have hus : us = [] := by
      rcases List.append_eq_singleton_iff.mp hc with ⟨hus, -⟩ | ⟨-, hnil⟩
      · exact hus
      · exact absurd hnil hvs
    rw [hus, depth_nil]
  · exact Calculator.depth_eq_zero fun c hc => hseg c (List.mem_append_left _ hc)

namespace Scans

theorem depth_eq (h : Scans offset cs located) :
    depth charSide cs = depth Located.side located := by
  induction h with
  | nil => rfl
  | space hc h ih => rw [depth_cons, charSide_of_isSpace hc, ih, Int.zero_add]
  | item hx hoffset h ih => rw [depth_append, hx.depth_eq, ih, depth_cons]

/-- Wherever a text is cut, as many brackets are open as after some of its lexemes. -/
theorem exists_depth_eq (h : Scans offset cs located) {us vs : List Char} (hcs : cs = us ++ vs) :
    ∃ ws xs, located = ws ++ xs ∧ depth charSide us = depth Located.side ws := by
  induction h generalizing us vs with
  | nil =>
    obtain ⟨rfl, -⟩ := List.append_eq_nil_iff.mp hcs.symm
    exact ⟨[], [], rfl, rfl⟩
  | space hc h ih =>
    rcases us with _ | ⟨u, us⟩
    · exact ⟨[], _, rfl, rfl⟩
    · obtain ⟨rfl, htail⟩ := List.cons.inj hcs
      obtain ⟨ws, xs, hlocated, hdepth⟩ := ih htail
      exact ⟨ws, xs, hlocated, by rw [depth_cons, charSide_of_isSpace hc, hdepth, Int.zero_add]⟩
  | @item offset seg rest x located hx hoffset h ih =>
    -- the cut lies behind the item, or in it
    rcases List.append_eq_append_iff.mp hcs with ⟨ys, rfl, hys⟩ | ⟨ys, rfl, hys⟩
    · obtain ⟨ws, xs, rfl, hdepth⟩ := ih hys
      exact ⟨x :: ws, xs, rfl, by rw [depth_append, hx.depth_eq, hdepth, depth_cons]⟩
    · rcases ys with _ | ⟨y, ys⟩
      · rw [List.append_nil] at hx
        exact ⟨[x], located, rfl, by rw [hx.depth_eq, depth_cons, depth_nil, Int.add_zero]⟩
      · exact ⟨[], x :: located, rfl, hx.depth_eq_zero (List.cons_ne_nil _ _)⟩

theorem balanced (h : Scans offset cs located) (hlocated : Balanced Located.side located) :
    Balanced charSide cs := by
  refine ⟨h.depth_eq.trans hlocated.depth_eq, fun us vs hcs => ?_⟩
  obtain ⟨ws, xs, hws, hdepth⟩ := h.exists_depth_eq hcs
  rw [hdepth]
  exact hlocated.depth_nonneg ws xs hws

end Scans

theorem Reads.balanced (h : Reads located ts) : Balanced Located.side located := by
  induction h with
  | nil => exact .nil
  | number x o h ih | identifier x o h ih | operator x o h ih => exact .cons rfl ih
  | @group o o' us ls inner ts tree hus hclose h ihus ih =>
    have hgroup : Balanced Located.side (⟨.opening, o⟩ :: (us ++ [⟨.closing, o'⟩])) :=
      .group rfl rfl ihus
    simpa using hgroup.append ih

/-! ## The characters of one lexeme -/

theorem Forms.of_append {us vs : List Char} (h : Forms (us ++ vs) seg x) : Forms us seg x := by
  cases h with
  | lexeme hl hend o => exact .lexeme hl hend.of_append o
  | invalid hc o => exact .invalid hc o
  | secondPoint hne hds hfs o => exact .secondPoint hne hds hfs o

/-- The characters of one of the lexemes of a text, and those before and after it. -/
theorem Scans.split (h : Scans offset cs (ws ++ x :: xs)) :
    ∃ pre seg post, cs = pre ++ (seg ++ post) ∧ Scans offset pre ws ∧ Forms post seg x ∧
      x.offset = offset + pre.length + seg.length ∧ Scans x.offset post xs := by
  generalize hlocated : ws ++ x :: xs = located at h
  -- along the scan, until as many lexemes have been passed as stand before the one sought
  induction h generalizing ws with
  | nil => simp at hlocated
  | @space offset c cs located hc h ih =>
    obtain ⟨pre, seg, post, rfl, hpre, hseg, hoffset, hpost⟩ := ih hlocated
    refine ⟨c :: pre, seg, post, rfl, .space hc hpre, hseg, ?_, hpost⟩
    rw [hoffset, List.length_cons]
    omega
  | @item offset seg rest y located hy hoffset h ih =>
    rcases ws with _ | ⟨w, ws⟩
    · obtain ⟨rfl, rfl⟩ := List.cons.inj hlocated
      refine ⟨[], seg, rest, rfl, .nil offset, hy, ?_, h⟩
      rw [hoffset, List.length_nil]
      omega
    · obtain ⟨rfl, htail⟩ := List.cons.inj hlocated
      obtain ⟨pre, seg', post, rfl, hpre, hseg, hoffset', hpost⟩ := ih htail
      refine ⟨seg ++ pre, seg', post, (List.append_assoc ..).symm, .item hy.of_append hoffset hpre,
        hseg, ?_, hpost⟩
      rw [hoffset', hoffset, List.length_append]
      omega

end Calculator
