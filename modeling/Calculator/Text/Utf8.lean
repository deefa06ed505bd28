import Calculator.Text.Quoted

/-!
# UTF-8

The strict decoding of bytes to characters.  A text that is not well formed is refused at the first
byte that no character can continue with.

## Main definitions

* `Utf8.decode bytes`: the characters of a byte sequence, or the first place where it is malformed
* `Utf8.encode cs`: the bytes of characters
* `Utf8Error`: what is malformed
-/

namespace Calculator

/-- Why bytes are not the beginning of a character. -/
inductive Utf8Problem where
  /-- No character begins with this byte. -/
  | invalidStart
  /-- The byte that follows does not continue the character. -/
  | invalidContinuation
  /-- The bytes end within the character. -/
  | unexpectedEnd
deriving DecidableEq, Repr

/-- A place where bytes are no UTF-8. -/
structure Utf8Error where
  /-- What is wrong. -/
  problem : Utf8Problem
  /-- The byte at which the malformed character begins. -/
  byte : Nat
  /-- The number of bytes before it. -/
  start : Nat
  /-- The number of bytes that belong to it. -/
  length : Nat
deriving DecidableEq, Repr

namespace Utf8Error

/-- The wording of a problem. -/
def reason (e : Utf8Error) : String :=
  match e.problem with
  | .invalidStart => "invalid start byte"
  | .invalidContinuation => "invalid continuation byte"
  | .unexpectedEnd => "unexpected end of data"

/-- The text of the error: it names a single byte, or the range of several. -/
def message (e : Utf8Error) : String :=
  "'utf-8' codec can't decode " ++
    (if e.length = 1 then
      "byte 0x" ++ String.ofList (Quoted.hexDigits 2 e.byte) ++ " in position " ++ toString e.start
    else
      "bytes in position " ++ toString e.start ++ "-" ++ toString (e.start + e.length - 1)) ++
    ": " ++ e.reason

end Utf8Error

namespace Utf8

/-- What a first byte says about the bytes after it: the bits that it contributes, and for each
continuation byte the least and the greatest that may stand there.  The narrower ranges keep out
overlong forms, surrogates, and code points past the last. -/
def leading (byte : Nat) : Option (Nat × List (Nat × Nat)) :=
  if byte < 0x80 then some (byte, [])
  else if byte < 0xc2 then none
  else if byte < 0xe0 then some (byte - 0xc0, [(0x80, 0xbf)])
  else if byte = 0xe0 then some (0, [(0xa0, 0xbf), (0x80, 0xbf)])
  else if byte = 0xed then some (0xd, [(0x80, 0x9f), (0x80, 0xbf)])
  else if byte < 0xf0 then some (byte - 0xe0, [(0x80, 0xbf), (0x80, 0xbf)])
  else if byte = 0xf0 then some (0, [(0x90, 0xbf), (0x80, 0xbf), (0x80, 0xbf)])
  else if byte < 0xf4 then some (byte - 0xf0, [(0x80, 0xbf), (0x80, 0xbf), (0x80, 0xbf)])
  else if byte = 0xf4 then some (4, [(0x80, 0x8f), (0x80, 0xbf), (0x80, 0xbf)])
  else none

/-- The code point that continuation bytes complete, or what is wrong and the number of bytes before
the place.  `code` holds the bits read so far and `length` the bytes. -/
def continuation (code length : Nat) :
    List (Nat × Nat) → List UInt8 → Except (Utf8Problem × Nat) Nat
  | [], _ => .ok code
  | _ :: _, [] => .error (.unexpectedEnd, length)
  | (least, greatest) :: ranges, byte :: bytes =>
    if least ≤ byte.toNat ∧ byte.toNat ≤ greatest then
      continuation (code * 64 + byte.toNat % 64) (length + 1) ranges bytes
    else .error (.invalidContinuation, length)

/-- The characters of bytes, of which the first stands at `start`. -/
def decodeFrom (start : Nat) : List UInt8 → Except Utf8Error (List Char)
  | [] => .ok []
  | byte :: bytes =>
    match leading byte.toNat with
    | none => .error ⟨.invalidStart, byte.toNat, start, 1⟩
    | some (code, ranges) =>
      match continuation code 1 ranges bytes with
      | .error (problem, length) => .error ⟨problem, byte.toNat, start, length⟩
      | .ok code =>
        match decodeFrom (start + 1 + ranges.length) (bytes.drop ranges.length) with
        | .ok cs => .ok (Char.ofNat code :: cs)
        | .error e => .error e
termination_by bytes => bytes.length
decreasing_by
  simp only [List.length_drop, List.length_cons]
  omega

/-- The characters of bytes. -/
def decode (bytes : List UInt8) : Except Utf8Error (List Char) :=
  decodeFrom 0 bytes

/-- The bytes of characters. -/
def encode (cs : List Char) : List UInt8 :=
  cs.flatMap String.utf8EncodeChar

end Utf8

end Calculator
