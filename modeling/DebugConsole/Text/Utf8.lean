/-
# UTF-8

`encode` is the byte form of a text, `decode` reads bytes back and names the
first flaw otherwise.

| flaw | when | |
| --- | --- | --- |
| `broken length start` | a byte cannot stand there | `length` bytes from `start` are no character |
| `cutOff start` | the bytes end inside a character | the character begins at `start` |

The bytes of one character are read with the bounds of its second byte, so that
overlong forms, surrogates and code points above U+10FFFF are refused at the
first byte that rules them out.
-/

namespace DebugConsole
namespace Utf8

/-- The first place where bytes are not UTF-8. -/
inductive Flaw where
  | broken (length start : Nat)
  | cutOff (start : Nat)
deriving DecidableEq, Repr, Inhabited

namespace Flaw

/-- The wording of a flaw. -/
def message : Flaw → String
  | .broken length start =>
    "invalid utf-8 sequence of " ++ toString length ++ " bytes from index " ++ toString start
  | .cutOff start => "incomplete utf-8 byte sequence from index " ++ toString start

end Flaw

/-- The bytes of a text. -/
def encode (s : String) : List UInt8 := s.toList.flatMap String.utf8EncodeChar

/-- A character of which some bytes have been read. -/
structure Begun where
  /-- The bits read so far. -/
  code : Nat
  /-- How many bytes have been read. -/
  seen : Nat
  /-- How many bytes are still to come, at least one. -/
  owed : Nat
  /-- The least next byte. -/
  low : Nat
  /-- The greatest next byte. -/
  high : Nat

/-- What the first byte of a character says. -/
inductive Lead where
  | whole (c : Char)
  | begun (b : Begun)
  | bad

/-- Reads the first byte of a character. -/
def lead (b : Nat) : Lead :=
  if b < 0x80 then .whole (Char.ofNat b)
  else if b < 0xC2 then .bad
  else if b < 0xE0 then .begun ⟨b - 0xC0, 1, 1, 0x80, 0xBF⟩
  else if b = 0xE0 then .begun ⟨0, 1, 2, 0xA0, 0xBF⟩
  else if b = 0xED then .begun ⟨0xD, 1, 2, 0x80, 0x9F⟩
  else if b < 0xF0 then .begun ⟨b - 0xE0, 1, 2, 0x80, 0xBF⟩
  else if b = 0xF0 then .begun ⟨0, 1, 3, 0x90, 0xBF⟩
  else if b < 0xF4 then .begun ⟨b - 0xF0, 1, 3, 0x80, 0xBF⟩
  else if b = 0xF4 then .begun ⟨4, 1, 3, 0x80, 0x8F⟩
  else .bad

/-- Reads bytes from the start of the bytes on, `start` being the place of the
character that has begun or begins next, `acc` the characters read, last first. -/
def decodeFrom : List Char → Nat → Option Begun → List UInt8 → Except Flaw (List Char)
  | acc, _, none, [] => .ok acc.reverse
  | _, start, some _, [] => .error (.cutOff start)
  | acc, start, none, b :: rest =>
    match lead b.toNat with
    | .whole c => decodeFrom (c :: acc) (start + 1) none rest
    | .begun begun => decodeFrom acc start (some begun) rest
    | .bad => .error (.broken 1 start)
  | acc, start, some begun, b :: rest =>
    if begun.low ≤ b.toNat ∧ b.toNat ≤ begun.high then
      let code := begun.code * 64 + (b.toNat - 0x80)
      if begun.owed = 1 then
        decodeFrom (Char.ofNat code :: acc) (start + begun.seen + 1) none rest
      else
        decodeFrom acc start (some ⟨code, begun.seen + 1, begun.owed - 1, 0x80, 0xBF⟩) rest
    else .error (.broken begun.seen start)

/-- The text whose bytes these are. -/
def decode (bytes : List UInt8) : Except Flaw String :=
  (decodeFrom [] 0 none bytes).map String.ofList

/-- How many bytes a text takes. -/
def size (s : String) : Nat := s.utf8ByteSize

end Utf8
end DebugConsole
