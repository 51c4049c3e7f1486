/-
# Binary64 numbers

The binary64 numbers from zero up stand in a row; a number is its `place` in it.
All are multiples of the least one above zero, the unit `2^-1074`:

| places | steps between neighbours |
| --- | --- |
| `0` to `2^53` | one unit |
| `(n+1) · 2^52` to `(n+2) · 2^52` | `2^n` units |

At `infinitePlace` stands `2^1024`, which is too large already.  A quotient of
natural numbers goes to the nearest place, half way to the even one
(`nearest`); products and quotients of numbers are rounded in this way, once.
-/

namespace DebugConsole

/-- The first place with no finite number. -/
def infinitePlace : Nat := 0x7FF0000000000000

/-- A finite binary64 number; there are two zeros. -/
structure Binary64 where
  negative : Bool
  place : Nat
  place_lt : place < infinitePlace := by decide
deriving DecidableEq, Repr

namespace Binary64

instance : Inhabited Binary64 := ⟨{ negative := false, place := 0 }⟩

/-- So many places share one distance between neighbours. -/
def octave : Nat := 0x10000000000000

/-- So many units make the number one. -/
def unitsOfOne : Nat := Nat.pow 2 1074

/-- The number at a place, in units. -/
def units (place : Nat) : Nat :=
  let steps := place / octave - 1
  (place - steps * octave) * Nat.pow 2 steps

/-- A quotient as a whole number, half way to the even one. -/
def roundedQuotient (numerator denominator : Nat) : Nat :=
  let whole := numerator / denominator
  let twice := 2 * (numerator % denominator)
  if twice < denominator || (twice = denominator && whole % 2 = 0) then whole else whole + 1

/-- The place nearest to a quotient of units. -/
def nearest (numerator denominator : Nat) : Nat :=
  let steps := Nat.log2 (numerator / denominator) - 52
  steps * octave + roundedQuotient numerator (denominator * Nat.pow 2 steps)

/-- The place nearest to a natural number. -/
def placeOfNat (n : Nat) : Nat := nearest (n * unitsOfOne) 1

/-- The place of a product. -/
def placeOfProduct (a b : Nat) : Nat := nearest (units a * units b) unitsOfOne

/-- The place of a quotient. -/
def placeOfQuotient (a b : Nat) : Nat := nearest (units a * unitsOfOne) (units b)

/-- The finite number at a place. -/
def atPlace? (negative : Bool) (place : Nat) : Option Binary64 :=
  if h : place < infinitePlace then some { negative, place, place_lt := h } else none

/-- Zero. -/
def zero (negative : Bool) : Binary64 := { negative, place := 0 }

end Binary64
end DebugConsole
