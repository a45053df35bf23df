/-
# Ranges of code points

A class of characters is given by a list of ranges of code points, both ends
included.
-/

namespace NwScript.Text

/-- Whether a code point is in one of the ranges. -/
def inRanges (ranges : List (Nat × Nat)) (code : Nat) : Bool :=
  ranges.any fun (first, last) => first ≤ code && code ≤ last

end NwScript.Text
