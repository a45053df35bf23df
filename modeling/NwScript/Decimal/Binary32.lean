/-
# Binary numbers of 32 bits

A floating point literal is stored as 32 bits: a sign, an exponent and a
fraction. A finite number is a significand times a power of two, and the reals
that are rounded to it form an interval around it. Everything here is exact
arithmetic on natural numbers.
-/

namespace NwScript.Decimal

/-- The size of a finite number: `significand * 2 ^ exponent / 2 ^ 149`. -/
structure Magnitude where
  significand : Nat
  /-- The power of two above the least one that a 32-bit number can have. -/
  exponent : Nat
  /-- Whether the next number below lies half as far away as the one above. -/
  closerBelow : Bool
  deriving DecidableEq

/-- What 32 bits stand for. -/
inductive Binary32
  | finite (negative : Bool) (magnitude : Magnitude)
  | infinite (negative : Bool)
  | notANumber
  deriving DecidableEq

namespace Binary32

/-- The power of two that all numbers are multiples of, as a denominator. -/
def unit : Nat := Nat.pow 2 149

/-- Read the sign, the eight bits of the exponent and the 23 of the fraction.
The least exponent marks the numbers without a leading one bit, the greatest
marks infinity and what is not a number. -/
def ofBits (bits : UInt32) : Binary32 :=
  let negative := bits.toNat / Nat.pow 2 31 == 1
  let exponent := bits.toNat / Nat.pow 2 23 % Nat.pow 2 8
  let fraction := bits.toNat % Nat.pow 2 23
  if exponent = 0 then .finite negative ⟨fraction, 0, false⟩
  else if exponent < 255 then
    .finite negative ⟨Nat.pow 2 23 + fraction, exponent - 1, fraction == 0 && 1 < exponent⟩
  else if fraction = 0 then .infinite negative
  else .notANumber

end Binary32

namespace Magnitude

/-- The number in units of the least power of two. -/
def units (x : Magnitude) : Nat := x.significand * Nat.pow 2 x.exponent

/-- Whether the number has no fractional part. -/
def isIntegral (x : Magnitude) : Bool := x.units % Binary32.unit == 0

/-- Whether the decimal `digits / 10 ^ places` is rounded to this number. The
neighbours are half a step away, or a quarter below a power of two, and the ends
of the interval belong to it exactly if the significand is even. -/
def roundsFrom (x : Magnitude) (digits places : Nat) : Bool :=
  let step := Nat.pow 2 x.exponent
  let point := 4 * digits * Binary32.unit
  let low := (4 * x.units - (if x.closerBelow then step else 2 * step)) * Nat.pow 10 places
  let high := (4 * x.units + 2 * step) * Nat.pow 10 places
  if x.significand % 2 = 0 then low ≤ point && point ≤ high else low < point && point < high

end Magnitude

end NwScript.Decimal
