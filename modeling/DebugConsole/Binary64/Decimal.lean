/-
# Decimal numbers beside binary64 ones

`Decimal` is `digits · 10^exponent`.  A binary64 number stands for all numbers
that are rounded to it; `shortest` is the one among them with the fewest digits,
of several the nearest, half way the one whose last digit is even.

`isFinite` tells whether a decimal number is rounded to a finite binary64 number
at all.  It looks at the digits only where their number leaves a doubt.
-/

import DebugConsole.Binary64.Basic

namespace DebugConsole

/-- The number `digits · 10^exponent`. -/
structure Decimal where
  digits : Nat
  exponent : Int
deriving DecidableEq, Repr, Inhabited

namespace Decimal

/-- The digits, the first of them first. -/
def text (d : Decimal) : List Char := Nat.toDigits 10 d.digits

/-- The least number that is rounded to no finite one: `2^1024 - 2^970`. -/
def overflowBound : Nat := Nat.pow 2 1024 - Nat.pow 2 970

/-- Is the number rounded to a finite one? -/
def isFinite (d : Decimal) : Bool :=
  let size := d.text.length + d.exponent
  if d.digits = 0 || size ≤ 308 then true
  else if 309 < size then false
  else d.digits * Nat.pow 10 d.exponent.toNat < overflowBound * Nat.pow 10 (-d.exponent).toNat

end Decimal

namespace Binary64

/-- A grid of decimal numbers: the multiples of `10^exponent`, measured in half units, are the
multiples of `step / scale`. -/
structure Grid where
  exponent : Int
  step : Nat
  scale : Nat

/-- The multiples of a power of ten. -/
def Grid.ofExponent (exponent : Int) : Grid :=
  { exponent
    step := Nat.pow 10 exponent.toNat * (2 * unitsOfOne)
    scale := Nat.pow 10 (-exponent).toNat }

/-- Is this multiple on the grid rounded to the number at the place?  The middle between two
neighbours goes to the even place. -/
def Grid.roundsTo (grid : Grid) (place multiple : Nat) : Bool :=
  let here := multiple * grid.step
  let low := (units (place - 1) + units place) * grid.scale
  let high := (units place + units (place + 1)) * grid.scale
  if place % 2 = 0 then low ≤ here && here ≤ high else low < here && here < high

/-- The best number on the grid that is rounded to the number at the place.  Only the two
multiples around that number can be. -/
def Grid.best? (grid : Grid) (place : Nat) : Option Decimal :=
  let value := 2 * units place * grid.scale
  let below := value / grid.step
  let nearer := roundedQuotient value grid.step
  let other := if nearer = below then below + 1 else below
  if grid.roundsTo place nearer then some ⟨nearer, grid.exponent⟩
  else if grid.roundsTo place other then some ⟨other, grid.exponent⟩
  else none

/-- An exponent whose power of ten is above twice the number at a place, so that no multiple of
it is rounded to that number; `log₁₀ 2` is `0.30103`. -/
def topExponent (place : Nat) : Int := ((Nat.log2 (units place) : Int) - 1073) * 30103 / 100000 + 2

/-- The powers of ten that a shortest decimal number can be a multiple of, falling. -/
def gridExponents (place : Nat) : List Int :=
  let top := topExponent place
  (List.range (top + 325).toNat).map fun (n : Nat) => top - n

/-- The shortest decimal number that is rounded to the number at a place other than the first. -/
def shortest (place : Nat) : Decimal :=
  let best? exponent := (Grid.ofExponent exponent).best? place
  ((gridExponents place).findSome? best?).getD ⟨0, 0⟩

end Binary64
end DebugConsole
