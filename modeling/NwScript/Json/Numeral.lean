/-
# Numerals

A number in a JSON text is kept as its digits. A type that wants an integer
takes only numerals without fraction and exponent; for any other numeral it
still matters whether a double can hold it, because one that exceeds every
double is no valid text at all.
-/

namespace NwScript.Json

/-- A number as it is written. The digits are in the order of the text. -/
structure Numeral where
  negative : Bool
  whole : List Nat
  fraction : List Nat := []
  /-- The exponent, if there is one: whether it is negative, and its digits. -/
  exponent : Option (Bool × List Nat) := none
  deriving DecidableEq

/-- The number that digits denote. -/
def ofDigits (digits : List Nat) : Nat := digits.foldl (fun n d => n * 10 + d) 0

/-- The nearest multiple of a power of two that has 53 significant bits; a tie
goes to the even one. -/
def roundTo53Bits (n : Nat) : Nat :=
  if n < Nat.pow 2 53 then n
  else
    let step := Nat.pow 2 (n.log2 - 52)
    let quotient := n / step
    let remainder := n % step
    let up := step < 2 * remainder || (step == 2 * remainder && quotient % 2 == 1)
    (if up then quotient + 1 else quotient) * step

/-- The least number that is rounded to something past every double. -/
def doubleOverflow : Nat := Nat.pow 2 1024 - Nat.pow 2 970

namespace Numeral

/-- The integer that is denoted. A negative zero is none, because integers have
only one. -/
def integer? (n : Numeral) : Option Int :=
  if n.fraction.isEmpty && n.exponent.isNone then
    let magnitude := ofDigits n.whole
    if n.negative then
      if magnitude = 0 then none else some (-magnitude)
    else some magnitude
  else none

/-- Digits taken into a significand, and the power of ten they are off by. -/
structure Scaled where
  significand : Nat
  exponent : Int

/-- Take the digits before the point. From the first one on that would carry the
significand past 64 bits, they only raise the exponent. -/
def takeWhole (digits : List Nat) : Scaled :=
  (digits.foldl
    (fun (x, fits) d =>
      let next := x.significand * 10 + d
      if fits && next < UInt64.size then (⟨next, x.exponent⟩, true)
      else (⟨x.significand, x.exponent + 1⟩, false))
    ((⟨0, 0⟩, true) : Scaled × Bool)).1

/-- Take the digits after the point, up to the first one that would carry the
significand past 64 bits. -/
def takeFraction (x : Scaled) : List Nat → Scaled
  | [] => x
  | d :: rest =>
      let next := x.significand * 10 + d
      if next < UInt64.size then takeFraction ⟨next, x.exponent - 1⟩ rest else x

/-- Take the written exponent. -/
def takeExponent (x : Scaled) : Option (Bool × List Nat) → Scaled
  | none => x
  | some (true, digits) => ⟨x.significand, x.exponent - ofDigits digits⟩
  | some (false, digits) => ⟨x.significand, x.exponent + ofDigits digits⟩

/-- Whether the number exceeds every double, when the significand and the power
of ten are each rounded to a double first. -/
def outOfRange (n : Numeral) : Bool :=
  let x := takeExponent (takeFraction (takeWhole n.whole) n.fraction) n.exponent
  x.significand != 0 && 0 ≤ x.exponent &&
    (308 < x.exponent ||
      doubleOverflow ≤ roundTo53Bits x.significand * roundTo53Bits (Nat.pow 10 x.exponent.toNat))

end Numeral

end NwScript.Json
