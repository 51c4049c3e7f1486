/-
# Numbers with a fraction or an exponent

A number is read digit by digit into a significand of 64 bits and a power of ten.

| part | |
| --- | --- |
| digits before the point | the first that does not fit and all behind it only raise the power |
| digits after the point | they count up to the first that does not fit |
| exponent | above `2^31 - 1` the number is zero or out of range |

The value is the significand, rounded, times or divided by that power of ten,
rounded, and rounded again.  Below `10^-308` it is divided in several steps.  So
the value may differ from the nearest binary64 number in the last digit.

A number is written with the fewest digits that stand for it: plain with up to
sixteen digits before the point or up to four zeros behind it, with an exponent
otherwise.
-/

import DebugConsole.Binary64.Decimal

namespace DebugConsole
namespace Json

/-- The number written by decimal digits. -/
def ofDigits (digits : List Char) : Nat :=
  digits.foldl (fun n c => n * 10 + (c.toNat - '0'.toNat)) 0

/-- A significand of at most 64 bits, and the power of ten that goes with it. -/
structure Scaled where
  significand : Nat := 0
  exponent : Int := 0
deriving Repr

namespace Scaled

/-- The significand with one digit more, where that fits. -/
def append? (significand : Nat) (digit : Char) : Option Nat :=
  let longer := significand * 10 + (digit.toNat - '0'.toNat)
  if longer < UInt64.size then some longer else none

/-- Reads the digits before the point. -/
def whole (significand : Nat) : List Char → Scaled
  | [] => { significand }
  | digit :: rest =>
    match append? significand digit with
    | some longer => whole longer rest
    | none => { significand, exponent := rest.length + 1 }

/-- Reads the digits after the point. -/
def fraction (s : Scaled) : List Char → Scaled
  | [] => s
  | digit :: rest =>
    match append? s.significand digit with
    | some significand => fraction { significand, exponent := s.exponent - 1 } rest
    | none => s

end Scaled

/-- The largest exponent. -/
def maxExponent : Nat := 0x7FFFFFFF

/-- The largest power of ten that is multiplied or divided by in one step. -/
def maxPower : Nat := 308

/-- The place of a power of ten. -/
def placeOfPower (n : Nat) : Nat := Binary64.placeOfNat (Nat.pow 10 n)

/-- Divides the number at a place by a power of ten, step by step. -/
def divide (place power : Nat) : Nat :=
  if place = 0 then 0
  else if power ≤ maxPower then Binary64.placeOfQuotient place (placeOfPower power)
  else divide (Binary64.placeOfQuotient place (placeOfPower maxPower)) (power - maxPower)
termination_by power
decreasing_by simp only [maxPower] at *; omega

/-- The value of a significand with its power of ten; none where it is out of range. -/
def Scaled.value? (negative : Bool) (s : Scaled) : Option Binary64 :=
  let place := Binary64.placeOfNat s.significand
  if s.exponent < 0 then Binary64.atPlace? negative (divide place (-s.exponent).toNat)
  else if place = 0 then some (Binary64.zero negative)
  else if maxPower < s.exponent then none
  else Binary64.atPlace? negative (Binary64.placeOfProduct place (placeOfPower s.exponent.toNat))

/-- The value of a significand with a written exponent. -/
def Scaled.raise? (negative falls : Bool) (exponent : Nat) (s : Scaled) : Option Binary64 :=
  if maxExponent < exponent then
    if s.significand ≠ 0 && !falls then none else some (Binary64.zero negative)
  else
    { s with exponent := s.exponent + (if falls then -(exponent : Int) else exponent) }.value?
      negative

/-- The digits with their point; `point` is the number of digits before it. -/
def writeDigits (digits : List Char) (point : Int) : List Char :=
  let count : Int := digits.length
  if count ≤ point ∧ point ≤ 16 then
    digits ++ List.replicate (point - count).toNat '0' ++ ['.', '0']
  else if 0 < point ∧ point ≤ 16 then
    digits.take point.toNat ++ '.' :: digits.drop point.toNat
  else if -5 < point ∧ point ≤ 0 then
    '0' :: '.' :: List.replicate (-point).toNat '0' ++ digits
  else
    let power := 'e' :: (toString (point - 1)).toList
    match digits with
    | first :: second :: rest => first :: '.' :: second :: rest ++ power
    | _ => digits ++ power

/-- A binary64 number as it is written. -/
def writeReal (x : Binary64) : List Char :=
  let sign := if x.negative then ['-'] else []
  if x.place = 0 then sign ++ ['0', '.', '0']
  else
    let shortest := Binary64.shortest x.place
    sign ++ writeDigits shortest.text (shortest.text.length + shortest.exponent)

end Json
end DebugConsole
