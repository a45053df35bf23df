/-
# The shortest decimal

A number that is not whole is written with as few decimal places as suffice to
read it back. On each grid of decimals only the two neighbours of the number can
be the nearest to it, so the search tries both, place by place; it ends at the
latest where the number lies on the grid itself.
-/

import NwScript.Decimal.Binary32
import NwScript.Text.Digits

namespace NwScript.Decimal

/-- A decimal fraction: `digits / 10 ^ places`. -/
structure Fraction where
  digits : Nat
  places : Nat
  deriving DecidableEq

/-- The decimal in positional notation, with all its places. -/
def Fraction.text (x : Fraction) : String :=
  toString (x.digits / Nat.pow 10 x.places) ++ "." ++
    String.ofList (Text.fixedDigits 10 x.places x.digits)

namespace Magnitude

/-- The nearest decimal with so many places that reads back as the number, if
there is one. Of two that are equally near the greater is taken. -/
def nearestOn? (x : Magnitude) (places : Nat) : Option Nat :=
  let below := x.units * Nat.pow 10 places / Binary32.unit
  let remainder := x.units * Nat.pow 10 places % Binary32.unit
  match x.roundsFrom below places, x.roundsFrom (below + 1) places with
  | true, true => some (if 2 * remainder < Binary32.unit then below else below + 1)
  | true, false => some below
  | false, true => some (below + 1)
  | false, false => none

/-- Search the grids from `places` on, at most `fuel` of them; beyond the last
one the number is written exactly. -/
def shortestFrom (x : Magnitude) : (fuel places : Nat) → Fraction
  | 0, places => ⟨x.units * Nat.pow 10 places / Binary32.unit, places⟩
  | fuel + 1, places =>
      match x.nearestOn? places with
      | some digits => ⟨digits, places⟩
      | none => x.shortestFrom fuel (places + 1)

/-- The decimal with the fewest places that reads back as the number. A number
that is not whole lies on the grid of 149 places at the latest. -/
def shortest (x : Magnitude) : Fraction := x.shortestFrom 148 1

/-- The number in positional notation: a whole number with all its digits and
one zero after the point, any other by its shortest decimal. -/
def text (x : Magnitude) : String :=
  if x.isIntegral then toString (x.units / Binary32.unit) ++ ".0" else x.shortest.text

end Magnitude

/-- A 32-bit number as text. Zero keeps its sign; what is not a number has
none. -/
def Binary32.text : Binary32 → String
  | finite negative magnitude => (if negative then "-" else "") ++ magnitude.text
  | infinite negative => if negative then "-inf" else "inf"
  | notANumber => "NaN"

end NwScript.Decimal
