import Mathlib
import Calculator.Text.Utf8

/-!
# Characters as code points and as bytes

A string is recovered from its code points and from its bytes.  Code points are those of a string
exactly if all of them are characters, and bytes are decoded exactly if they are those of
characters.

## Main definitions

* `Utf8.IsRead bytes n`: bytes that the code point `n` is read from, whatever follows

## Main results

* `CodePoints.toString?_eq_some_iff`: the code points of a string
* `Utf8.leading_two`, `Utf8.leading_three`, `Utf8.leading_four`: what a first byte allows
* `Utf8.isRead_utf8EncodeChar`: the bytes of a character are read as that character
* `Utf8.utf8EncodeChar_of_continuation`: what is read as a character are its bytes
* `Utf8.decode_eq_ok_iff`: decoding is the inverse of encoding
-/

namespace Calculator

/-! ## Code points -/

theorem toNat_ofNat {n : Nat} (h : n.isValidChar) : (Char.ofNat n).toNat = n := by
  rw [Char.toNat_ofNat, if_pos h]

namespace CodePoints

theorem char?_eq_some_iff {n : Nat} {c : Char} : char? n = some c ↔ n = c.toNat := by
  constructor
  · intro h
    rw [char?] at h
    split at h
    · rename_i hvalid
      rw [← Option.some.inj h, toNat_ofNat hvalid]
    · cases h
  · rintro rfl
    exact char?_toNat c

theorem eq_map_toNat_of_mapM {s : CodePoints} {cs : List Char} (h : s.mapM char? = some cs) :
    s = cs.map Char.toNat := by
  induction s generalizing cs with
  | nil =>
    obtain rfl : [] = cs := by simpa using h
    rfl
  | cons n s ih =>
    rw [List.mapM_cons] at h
    obtain ⟨c, hc, h⟩ := Option.bind_eq_some_iff.mp h
    obtain ⟨ds, hds, h⟩ := Option.bind_eq_some_iff.mp h
    obtain rfl := Option.some.inj h
    rw [List.map_cons, ← ih hds, ← char?_eq_some_iff.mp hc]

/-- **The code points of a string** are those that are all characters. -/
theorem toString?_eq_some_iff {s : CodePoints} {t : String} :
    s.toString? = some t ↔ s = ofString t := by
  constructor
  · intro h
    obtain ⟨cs, hcs, rfl⟩ := Option.map_eq_some_iff.mp h
    rw [ofString, String.toList_ofList]
    exact eq_map_toNat_of_mapM hcs
  · rintro rfl
    exact toString?_ofString t

theorem ofString_injective {s t : String} (h : ofString s = ofString t) : s = t := by
  have hs := toString?_ofString s
  rw [h, toString?_ofString] at hs
  exact (Option.some.inj hs).symm

theorem isValidChar_of_mem_ofString {s : String} {n : Nat} (h : n ∈ ofString s) :
    n.isValidChar := by
  obtain ⟨c, -, rfl⟩ := List.mem_map.mp h
  exact c.valid

end CodePoints

namespace Utf8

variable {n code length start : Nat} {byte : UInt8} {bytes rest : List UInt8} {c : Char}

/-! ## What a first byte allows -/

theorem leading_one {b : Nat} (h : b < 0x80) : leading b = some (b, []) := by
  rw [leading, if_pos h]

theorem leading_two {b : Nat} (h : 0xc2 ≤ b) (h' : b < 0xe0) :
    leading b = some (b - 0xc0, [(0x80, 0xbf)]) := by
  rw [leading, if_neg (by omega), if_neg (by omega), if_pos h']

/-- The byte after `0xe0` is not that of an overlong form, and after `0xed` not that of a
surrogate. -/
theorem leading_three {b : Nat} (h : 0xe0 ≤ b) (h' : b < 0xf0) :
    leading b = some (b - 0xe0,
      [(if b = 0xe0 then 0xa0 else 0x80, if b = 0xed then 0x9f else 0xbf), (0x80, 0xbf)]) := by
  rw [leading, if_neg (by omega), if_neg (by omega), if_neg (by omega)]
  split
  · rename_i hb
    subst hb
    rfl
  · split
    · rename_i hb
      subst hb
      rfl
    · rfl

/-- The byte after `0xf0` is not that of an overlong form, and after `0xf4` not that of a code point
past the last. -/
theorem leading_four {b : Nat} (h : 0xf0 ≤ b) (h' : b ≤ 0xf4) :
    leading b = some (b - 0xf0,
      [(if b = 0xf0 then 0x90 else 0x80, if b = 0xf4 then 0x8f else 0xbf), (0x80, 0xbf),
        (0x80, 0xbf)]) := by
  rw [leading, if_neg (by omega), if_neg (by omega), if_neg (by omega), if_neg (by omega),
    if_neg (by omega), if_neg (by omega)]
  split
  · rename_i hb
    subst hb
    rfl
  · split
    · rw [if_neg (by omega)]
    · rename_i hlt
      obtain rfl : b = 0xf4 := by omega
      rfl

theorem leading_eq_none {b : Nat} (h : (0x80 ≤ b ∧ b < 0xc2) ∨ 0xf4 < b) : leading b = none := by
  rw [leading, if_neg (by omega)]
  rcases h with h | h
  · rw [if_pos h.2]
  · rw [if_neg (by omega), if_neg (by omega), if_neg (by omega), if_neg (by omega),
      if_neg (by omega), if_neg (by omega), if_neg (by omega), if_neg (by omega)]

theorem continuation_cons_eq_ok_iff {least greatest : Nat} {ranges : List (Nat × Nat)} :
    continuation code length ((least, greatest) :: ranges) bytes = .ok n ↔
      ∃ b rest, bytes = b :: rest ∧ least ≤ b.toNat ∧ b.toNat ≤ greatest ∧
        continuation (code * 64 + b.toNat % 64) (length + 1) ranges rest = .ok n := by
  cases bytes with
  | nil => simp [continuation]
  | cons b rest =>
    rw [continuation]
    split
    · simp_all
    · simp_all

/-- A continuation byte adds six bits to the code point. -/
theorem continuation_of_le {least greatest : Nat} {ranges : List (Nat × Nat)} (v : Nat)
    (hleast : least ≤ v % 64 + 0x80) (hgreatest : v % 64 + 0x80 ≤ greatest) :
    continuation code length ((least, greatest) :: ranges)
        (UInt8.ofNat (v % 64 + 0x80) :: bytes) =
      continuation (code * 64 + v % 64) (length + 1) ranges bytes := by
  have hbyte : (UInt8.ofNat (v % 64 + 0x80)).toNat = v % 64 + 0x80 := by
    rw [UInt8.toNat_ofNat']
    omega
  rw [continuation, hbyte, if_pos ⟨hleast, hgreatest⟩]
  congr 1
  omega

/-! ## The bytes of a character -/

/-- Bytes that a character is read from, whatever follows them. -/
def IsRead (bytes : List UInt8) (n : Nat) : Prop :=
  ∃ byte rest code ranges, bytes = byte :: rest ∧ leading byte.toNat = some (code, ranges) ∧
    rest.length = ranges.length ∧ ∀ others, continuation code 1 ranges (rest ++ others) = .ok n

theorem isRead_one {n : Nat} (h : n ≤ 0x7f) : IsRead [UInt8.ofNat n] n := by
  have hbyte : (UInt8.ofNat n).toNat = n := by
    rw [UInt8.toNat_ofNat']
    omega
  refine ⟨_, [], n, [], rfl, ?_, rfl, fun others => rfl⟩
  rw [hbyte]
  exact leading_one (by omega)

theorem isRead_two {n : Nat} (h : 0x7f < n) (h' : n ≤ 0x7ff) :
    IsRead [UInt8.ofNat (n / 64 % 0x20 + 0xc0), UInt8.ofNat (n % 0x40 + 0x80)] n := by
  have hbyte : (UInt8.ofNat (n / 64 % 0x20 + 0xc0)).toNat = n / 64 % 0x20 + 0xc0 := by
    rw [UInt8.toNat_ofNat']
    omega
  refine ⟨_, _, _, _, rfl, leading_two (by omega) (by omega), rfl, ?_⟩
  intro others
  show continuation _ _ _ (UInt8.ofNat (n % 0x40 + 0x80) :: others) = _
  rw [continuation_of_le n (by omega) (by omega), hbyte]
  show Except.ok _ = Except.ok _
  congr 1
  omega

theorem isRead_three {n : Nat} (h : 0x7ff < n) (h' : n ≤ 0xffff)
    (hvalid : n < 0xd800 ∨ 0xdfff < n) :
    IsRead [UInt8.ofNat (n / 4096 % 0x10 + 0xe0), UInt8.ofNat (n / 64 % 0x40 + 0x80),
      UInt8.ofNat (n % 0x40 + 0x80)] n := by
  have hbyte : (UInt8.ofNat (n / 4096 % 0x10 + 0xe0)).toNat = n / 4096 % 0x10 + 0xe0 := by
    rw [UInt8.toNat_ofNat']
    omega
  refine ⟨_, _, _, _, rfl, leading_three (by omega) (by omega), rfl, ?_⟩
  intro others
  show continuation _ _ _ (UInt8.ofNat (n / 64 % 0x40 + 0x80) ::
    UInt8.ofNat (n % 0x40 + 0x80) :: others) = _
  -- the narrower ranges hold what is neither below `0x800` nor a surrogate
  rw [hbyte, continuation_of_le (n / 64) (by split <;> omega) (by split <;> omega),
    continuation_of_le n (by omega) (by omega)]
  show Except.ok _ = Except.ok _
  congr 1
  omega

theorem isRead_four {n : Nat} (h : 0xffff < n) (h' : n < 0x110000) :
    IsRead [UInt8.ofNat (n / 262144 % 0x08 + 0xf0), UInt8.ofNat (n / 4096 % 0x40 + 0x80),
      UInt8.ofNat (n / 64 % 0x40 + 0x80), UInt8.ofNat (n % 0x40 + 0x80)] n := by
  have hbyte : (UInt8.ofNat (n / 262144 % 0x08 + 0xf0)).toNat = n / 262144 % 0x08 + 0xf0 := by
    rw [UInt8.toNat_ofNat']
    omega
  refine ⟨_, _, _, _, rfl, leading_four (by omega) (by omega), rfl, ?_⟩
  intro others
  show continuation _ _ _ (UInt8.ofNat (n / 4096 % 0x40 + 0x80) ::
    UInt8.ofNat (n / 64 % 0x40 + 0x80) :: UInt8.ofNat (n % 0x40 + 0x80) :: others) = _
  rw [hbyte, continuation_of_le (n / 4096) (by split <;> omega) (by split <;> omega),
    continuation_of_le (n / 64) (by omega) (by omega), continuation_of_le n (by omega) (by omega)]
  show Except.ok _ = Except.ok _
  congr 1
  omega

/-- **The bytes of a character** are read as that character. -/
theorem isRead_utf8EncodeChar (c : Char) : IsRead (String.utf8EncodeChar c) c.toNat := by
  have hvalid : c.toNat < 0xd800 ∨ 0xdfff < c.toNat ∧ c.toNat < 0x110000 := c.valid
  have hval : c.val.toNat = c.toNat := rfl
  simp only [String.utf8EncodeChar, hval]
  split
  · exact isRead_one ‹_›
  · split
    · exact isRead_two (by omega) ‹_›
    · split
      · exact isRead_three (by omega) ‹_› (by omega)
      · exact isRead_four (by omega) (by omega)

theorem ofNat_eq_of_toNat {k : Nat} {b : UInt8} (h : k = b.toNat) : UInt8.ofNat k = b := by
  rw [h, UInt8.ofNat_toNat]

theorem toNat_val_ofNat (h : n.isValidChar) : (Char.ofNat n).val.toNat = n :=
  toNat_ofNat h

theorem utf8EncodeChar_one (h : byte.toNat < 0x80) :
    String.utf8EncodeChar (Char.ofNat byte.toNat) = [byte] := by
  have hvalid : byte.toNat.isValidChar := .inl (by omega)
  simp only [String.utf8EncodeChar, toNat_val_ofNat hvalid]
  rw [if_pos (by omega), ofNat_eq_of_toNat rfl]

theorem utf8EncodeChar_two (hlow : 0xc2 ≤ byte.toNat) (hhigh : byte.toNat < 0xe0)
    (h : continuation (byte.toNat - 0xc0) 1 [(0x80, 0xbf)] bytes = .ok n) :
    String.utf8EncodeChar (Char.ofNat n) = byte :: bytes.take 1 := by
  obtain ⟨b, rest, rfl, hb, hb', h⟩ := continuation_cons_eq_ok_iff.mp h
  obtain rfl := Except.ok.inj h
  have hvalid : ((byte.toNat - 0xc0) * 64 + b.toNat % 64).isValidChar := .inl (by omega)
  simp only [String.utf8EncodeChar, toNat_val_ofNat hvalid]
  rw [if_neg (by omega), if_pos (by omega), ofNat_eq_of_toNat (b := byte) (by omega),
    ofNat_eq_of_toNat (b := b) (by omega)]
  rfl

theorem utf8EncodeChar_three (hlow : 0xe0 ≤ byte.toNat) (hhigh : byte.toNat < 0xf0)
    (h : continuation (byte.toNat - 0xe0) 1
      [(if byte.toNat = 0xe0 then 0xa0 else 0x80, if byte.toNat = 0xed then 0x9f else 0xbf),
        (0x80, 0xbf)] bytes = .ok n) :
    String.utf8EncodeChar (Char.ofNat n) = byte :: bytes.take 2 := by
  obtain ⟨b, rest, rfl, hb, hb', h⟩ := continuation_cons_eq_ok_iff.mp h
  obtain ⟨d, rest, rfl, hd, hd', h⟩ := continuation_cons_eq_ok_iff.mp h
  obtain rfl := Except.ok.inj h
  -- the narrower ranges leave out what is below `0x800` and the surrogates
  have hbound : 0x80 ≤ b.toNat ∧ b.toNat ≤ 0xbf ∧ (byte.toNat = 0xe0 → 0xa0 ≤ b.toNat) ∧
      (byte.toNat = 0xed → b.toNat ≤ 0x9f) := by
    split at hb <;> split at hb' <;> omega
  have hvalid :
      (((byte.toNat - 0xe0) * 64 + b.toNat % 64) * 64 + d.toNat % 64).isValidChar := by
    rw [Nat.isValidChar]
    omega
  simp only [String.utf8EncodeChar, toNat_val_ofNat hvalid]
  rw [if_neg (by omega), if_neg (by omega), if_pos (by omega),
    ofNat_eq_of_toNat (b := byte) (by omega), ofNat_eq_of_toNat (b := b) (by omega),
    ofNat_eq_of_toNat (b := d) (by omega)]
  rfl

theorem utf8EncodeChar_four (hlow : 0xf0 ≤ byte.toNat) (hhigh : byte.toNat ≤ 0xf4)
    (h : continuation (byte.toNat - 0xf0) 1
      [(if byte.toNat = 0xf0 then 0x90 else 0x80, if byte.toNat = 0xf4 then 0x8f else 0xbf),
        (0x80, 0xbf), (0x80, 0xbf)] bytes = .ok n) :
    String.utf8EncodeChar (Char.ofNat n) = byte :: bytes.take 3 := by
  obtain ⟨b, rest, rfl, hb, hb', h⟩ := continuation_cons_eq_ok_iff.mp h
  obtain ⟨d, rest, rfl, hd, hd', h⟩ := continuation_cons_eq_ok_iff.mp h
  obtain ⟨e, rest, rfl, he, he', h⟩ := continuation_cons_eq_ok_iff.mp h
  obtain rfl := Except.ok.inj h
  -- the narrower ranges leave out what is below `0x10000` and past the last code point
  have hbound : 0x80 ≤ b.toNat ∧ b.toNat ≤ 0xbf ∧ (byte.toNat = 0xf0 → 0x90 ≤ b.toNat) ∧
      (byte.toNat = 0xf4 → b.toNat ≤ 0x8f) := by
    split at hb <;> split at hb' <;> omega
  have hvalid : ((((byte.toNat - 0xf0) * 64 + b.toNat % 64) * 64 + d.toNat % 64) * 64 +
      e.toNat % 64).isValidChar := by
    rw [Nat.isValidChar]
    omega
  simp only [String.utf8EncodeChar, toNat_val_ofNat hvalid]
  rw [if_neg (by omega), if_neg (by omega), if_neg (by omega),
    ofNat_eq_of_toNat (b := byte) (by omega), ofNat_eq_of_toNat (b := b) (by omega),
    ofNat_eq_of_toNat (b := d) (by omega), ofNat_eq_of_toNat (b := e) (by omega)]
  rfl

/-- **What is read as a character** are its bytes. -/
theorem utf8EncodeChar_of_continuation {ranges : List (Nat × Nat)}
    (hleading : leading byte.toNat = some (code, ranges))
    (h : continuation code 1 ranges bytes = .ok n) :
    String.utf8EncodeChar (Char.ofNat n) = byte :: bytes.take ranges.length := by
  have hcases : byte.toNat < 0x80 ∨ (0xc2 ≤ byte.toNat ∧ byte.toNat < 0xe0) ∨
      (0xe0 ≤ byte.toNat ∧ byte.toNat < 0xf0) ∨ (0xf0 ≤ byte.toNat ∧ byte.toNat ≤ 0xf4) := by
    by_contra hother
    rw [leading_eq_none (by omega)] at hleading
    cases hleading
  rcases hcases with hone | ⟨hlow, hhigh⟩ | ⟨hlow, hhigh⟩ | ⟨hlow, hhigh⟩
  · obtain ⟨rfl, rfl⟩ := Prod.mk.inj (Option.some.inj ((leading_one hone).symm.trans hleading))
    obtain rfl := Except.ok.inj h
    exact utf8EncodeChar_one hone
  · obtain ⟨rfl, rfl⟩ :=
      Prod.mk.inj (Option.some.inj ((leading_two hlow hhigh).symm.trans hleading))
    exact utf8EncodeChar_two hlow hhigh h
  · obtain ⟨rfl, rfl⟩ :=
      Prod.mk.inj (Option.some.inj ((leading_three hlow hhigh).symm.trans hleading))
    exact utf8EncodeChar_three hlow hhigh h
  · obtain ⟨rfl, rfl⟩ :=
      Prod.mk.inj (Option.some.inj ((leading_four hlow hhigh).symm.trans hleading))
    exact utf8EncodeChar_four hlow hhigh h

/-! ## Texts -/

theorem decodeFrom_utf8EncodeChar (c : Char) (start : Nat) (rest : List UInt8) :
    ∃ start', decodeFrom start (String.utf8EncodeChar c ++ rest) =
      (decodeFrom start' rest).map (c :: ·) := by
  obtain ⟨byte, tail, code, ranges, hbytes, hleading, hlength, hread⟩ := isRead_utf8EncodeChar c
  refine ⟨start + 1 + ranges.length, ?_⟩
  rw [hbytes, List.cons_append, decodeFrom, hleading]
  simp only [hread, ← hlength, List.drop_left, Char.ofNat_toNat]
  cases decodeFrom (start + 1 + tail.length) rest <;> rfl

theorem decodeFrom_encode (cs : List Char) (start : Nat) :
    decodeFrom start (encode cs) = .ok cs := by
  induction cs generalizing start with
  | nil => rw [encode, List.flatMap_nil, decodeFrom]
  | cons c cs ih =>
    obtain ⟨start', hchar⟩ := decodeFrom_utf8EncodeChar c start (encode cs)
    rw [encode, List.flatMap_cons, ← encode, hchar, ih]
    rfl

theorem encode_of_decodeFrom {cs : List Char} (h : decodeFrom start bytes = .ok cs) :
    encode cs = bytes := by
  fun_induction decodeFrom start bytes generalizing cs with
  | case1 start =>
    cases h
    rfl
  | case2 => cases h
  | case3 => cases h
  | case4 start byte bytes code ranges hleading n hread cs' hrest ih =>
    cases h
    have hchar := utf8EncodeChar_of_continuation hleading hread
    rw [encode, List.flatMap_cons, ← encode, ih hrest, hchar, List.cons_append,
      List.take_append_drop]
  | case5 => cases h

/-- **Strict decoding**: bytes are decoded to characters exactly if they are the bytes of these
characters. -/
theorem decode_eq_ok_iff {cs : List Char} : decode bytes = .ok cs ↔ bytes = encode cs := by
  constructor
  · intro h
    exact (encode_of_decodeFrom h).symm
  · rintro rfl
    exact decodeFrom_encode cs 0

end Utf8

end Calculator
