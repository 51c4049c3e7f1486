/-
# Decimal numerals

| reader | sign | digits |
| --- | --- | --- |
| `natural?` | an optional `+` | one or more of `0`–`9`, leading zeros allowed |
| `integer?` | an optional `+` or `-` | the same |

Nothing else may stand in a numeral: no blank, no separator, no digit of
another script.
-/

namespace DebugConsole
namespace Text

/-- Is the character one of `0`–`9`? -/
def isDigit (c : Char) : Bool := '0' ≤ c && c ≤ '9'

/-- The number of one or more digits. -/
def digits? (cs : List Char) : Option Nat :=
  if !cs.isEmpty && cs.all isDigit then
    some (cs.foldl (fun n c => n * 10 + (c.toNat - '0'.toNat)) 0)
  else none

/-- A numeral without a minus sign. -/
def natural? (s : String) : Option Nat :=
  match s.toList with
  | '+' :: rest => digits? rest
  | cs => digits? cs

/-- A numeral with or without a sign. -/
def integer? (s : String) : Option Int :=
  match s.toList with
  | '-' :: rest => (digits? rest).map fun n => -(n : Int)
  | '+' :: rest => (digits? rest).map Int.ofNat
  | cs => (digits? cs).map Int.ofNat

/-- A numeral of an unsigned 32-bit word. -/
def uint32? (s : String) : Option UInt32 :=
  (natural? s).bind fun n => if n < UInt32.size then some (UInt32.ofNat n) else none

/-- A numeral of an unsigned 64-bit word. -/
def uint64? (s : String) : Option UInt64 :=
  (natural? s).bind fun n => if n < UInt64.size then some (UInt64.ofNat n) else none

/-- A numeral of a signed 64-bit word. -/
def int64? (s : String) : Option Int64 :=
  (integer? s).bind fun n =>
    if -0x8000000000000000 ≤ n ∧ n < 0x8000000000000000 then some (Int64.ofInt n) else none

/-- Blanks before a text, up to a width. -/
def padLeft (width : Nat) (s : String) : String :=
  String.ofList (List.replicate (width - s.length) ' ') ++ s

/-- Blanks after a text, up to a width. -/
def padRight (width : Nat) (s : String) : String :=
  s ++ String.ofList (List.replicate (width - s.length) ' ')

end Text
end DebugConsole
