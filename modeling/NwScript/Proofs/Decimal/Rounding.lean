/-
# Rounding to binary numbers

The bits of a word behind its sign are its pattern. Patterns are in the order of the
numbers that they stand for, and infinity comes where the number after the greatest
would be. So a number is rounded to the nearest pattern, and if it lies in the middle
of two, to the even one; there is no other choice. Hence the numbers that are rounded
to a pattern reach from the middle below it to the middle above it, and that is what
the magnitude of a number decides about a decimal.
-/

import Mathlib
import NwScript.Decimal.Shortest

namespace NwScript.Decimal

namespace Binary32

/-! ## Patterns -/

/-- Whether a word has a minus sign. -/
def isNegative (word : UInt32) : Bool := decide (2 ^ 31 ≤ word.toNat)

/-- The bits of a word behind its sign. -/
def pattern (word : UInt32) : Nat := word.toNat % 2 ^ 31

/-- The pattern of infinity, which is behind those of the finite numbers. -/
def infinity : Nat := 255 * 2 ^ 23

/-- The number that a pattern stands for: behind the exponent are the binary places,
with a one before the point unless the exponent is the least. For infinity this is the
number that would come after the greatest, where numbers begin to be rounded to it. -/
def number (pattern : Nat) : ℚ :=
  let exponent : Nat := pattern / 2 ^ 23
  let fraction : ℚ := (pattern % 2 ^ 23 : Nat) / 2 ^ 23
  if exponent = 0 then fraction * 2 ^ (-126 : ℤ)
  else (1 + fraction) * 2 ^ ((exponent : ℤ) - 127)

/-- The magnitude that a pattern is read as. -/
def magnitude (pattern : Nat) : Magnitude :=
  let exponent := pattern / 2 ^ 23
  let fraction := pattern % 2 ^ 23
  if exponent = 0 then ⟨fraction, 0, false⟩
  else ⟨2 ^ 23 + fraction, exponent - 1, fraction == 0 && 1 < exponent⟩

/-- A word is known by its sign and its pattern. -/
theorem eq_of_pattern_eq {first second : UInt32} (hsign : isNegative first = isNegative second)
    (hpattern : pattern first = pattern second) : first = second := by
  have hfirst : first.toNat < 2 ^ 32 := first.toNat_lt
  have hsecond : second.toNat < 2 ^ 32 := second.toNat_lt
  rw [isNegative, isNegative, decide_eq_decide] at hsign
  rw [pattern, pattern] at hpattern
  apply UInt32.toNat_inj.mp
  omega

/-- A word with the pattern of a finite number is read as its sign and its magnitude. -/
theorem ofBits_eq {bits : UInt32} (finite : pattern bits < infinity) :
    ofBits bits = .finite (isNegative bits) (magnitude (pattern bits)) := by
  have hlt : bits.toNat < 2 ^ 32 := bits.toNat_lt
  have hsign : (bits.toNat / Nat.pow 2 31 == 1) = isNegative bits := by
    rw [isNegative, Bool.beq_eq_decide_eq, Nat.pow_eq, decide_eq_decide]
    omega
  have hexponent : bits.toNat / Nat.pow 2 23 % Nat.pow 2 8 = pattern bits / 2 ^ 23 := by
    simp only [pattern, Nat.pow_eq]
    omega
  have hfraction : bits.toNat % Nat.pow 2 23 = pattern bits % 2 ^ 23 := by
    simp only [pattern, Nat.pow_eq]
    omega
  have hbound : pattern bits / 2 ^ 23 < 255 := by
    rw [infinity] at finite
    omega
  simp only [ofBits, hsign, hexponent, hfraction, magnitude, Nat.pow_eq, hbound, if_true]
  split <;> rfl

theorem cast_unit : (unit : ℚ) = 2 ^ 149 := by
  rw [unit, Nat.pow_eq, Nat.cast_pow, Nat.cast_ofNat]

/-- The number of a pattern is its magnitude in units. -/
theorem number_eq (p : Nat) : number p = (magnitude p).units / unit := by
  rw [cast_unit, number, magnitude, Magnitude.units]
  generalize p % 2 ^ 23 = fraction
  cases p / 2 ^ 23 with
  | zero =>
      simp only [if_true, Nat.pow_eq, pow_zero, mul_one]
      ring
  | succ exponent =>
      have hexponent : ((exponent + 1 : ℕ) : ℤ) - 127 = (exponent : ℤ) - 126 := by
        rw [Nat.cast_succ]
        ring
      rw [if_neg exponent.succ_ne_zero, if_neg exponent.succ_ne_zero, hexponent,
        zpow_sub₀ (by norm_num), zpow_natCast, Nat.pow_eq, Nat.add_sub_cancel]
      push_cast
      ring

theorem number_zero : number 0 = 0 := by
  rw [number_eq]
  exact zero_div _

/-- A significand is even exactly if the pattern is. -/
theorem significand_mod_two (p : Nat) : (magnitude p).significand % 2 = p % 2 := by
  unfold magnitude
  dsimp only
  split <;> dsimp only <;> omega

/-- From a pattern to the next the significand goes up by one, or, where it is full, the
exponent does and the significand is halved. -/
theorem magnitude_succ (p : Nat) :
    magnitude (p + 1) = ⟨(magnitude p).significand + 1, (magnitude p).exponent, false⟩ ∨
      (magnitude p).significand + 1 = 2 * (magnitude (p + 1)).significand ∧
        (magnitude (p + 1)).exponent = (magnitude p).exponent + 1 ∧
          (magnitude (p + 1)).closerBelow = true := by
  have hsplit : (p % 2 ^ 23 = 2 ^ 23 - 1 ∧ (p + 1) % 2 ^ 23 = 0 ∧
        (p + 1) / 2 ^ 23 = p / 2 ^ 23 + 1) ∨
      ((p + 1) % 2 ^ 23 = p % 2 ^ 23 + 1 ∧ (p + 1) / 2 ^ 23 = p / 2 ^ 23) := by
    omega
  unfold magnitude
  rcases hsplit with ⟨hfull, hnone, hexponent⟩ | ⟨hfraction, hexponent⟩
  · rw [hfull, hnone, hexponent]
    cases p / 2 ^ 23 with
    -- The least exponent is followed by one with steps of the same width.
    | zero => exact .inl rfl
    | succ exponent => exact .inr (by simp)
  · rw [hfraction, hexponent]
    cases p / 2 ^ 23 with
    | zero => exact .inl rfl
    | succ exponent => exact .inl (by simp [Nat.add_assoc])

/-- The next pattern is one step of the present exponent away. -/
theorem units_succ (p : Nat) :
    (magnitude (p + 1)).units = (magnitude p).units + Nat.pow 2 (magnitude p).exponent := by
  rcases magnitude_succ p with hnext | ⟨hhalf, hexponent, -⟩
  · rw [hnext, Magnitude.units, Magnitude.units, Nat.add_mul, Nat.one_mul]
  · calc (magnitude (p + 1)).units
        = 2 * (magnitude (p + 1)).significand * Nat.pow 2 (magnitude p).exponent := by
          rw [Magnitude.units, hexponent, Nat.pow_eq, Nat.pow_eq, Nat.pow_succ]
          ring
      _ = (magnitude p).units + Nat.pow 2 (magnitude p).exponent := by
          rw [← hhalf, Nat.add_mul, Nat.one_mul, Magnitude.units]

/-- A magnitude tells the width of the step down to the pattern before: that of its own
exponent, or half of it where it is closer below. -/
theorem stepBelow_eq (p : Nat) :
    (if (magnitude (p + 1)).closerBelow then Nat.pow 2 (magnitude (p + 1)).exponent
      else 2 * Nat.pow 2 (magnitude (p + 1)).exponent) = 2 * Nat.pow 2 (magnitude p).exponent := by
  rcases magnitude_succ p with hnext | ⟨-, hexponent, hcloser⟩
  · rw [hnext]
    rfl
  · rw [hcloser, hexponent, if_pos rfl, Nat.pow_eq, Nat.pow_eq, Nat.pow_succ']

theorem number_lt_succ (p : Nat) : number p < number (p + 1) := by
  have hstep : (0 : ℚ) < ((Nat.pow 2 (magnitude p).exponent : Nat) : ℚ) / unit := by
    rw [cast_unit, Nat.pow_eq]
    positivity
  rw [number_eq, number_eq, units_succ, Nat.cast_add, add_div]
  exact lt_add_of_pos_right _ hstep

/-- Patterns are in the order of their numbers. -/
theorem number_strictMono : StrictMono number := strictMono_nat_of_lt_succ number_lt_succ

/-! ## The nearest pattern -/

/-- A number is rounded to a pattern if every other, up to infinity, is farther away, or as
far and the pattern is the even one. -/
structure IsNearest (x : ℚ) (p : Nat) : Prop where
  inRange : p ≤ infinity
  nearer : ∀ other ≤ infinity, other ≠ p →
    |x - number p| < |x - number other| ∨ |x - number p| = |x - number other| ∧ Even p

/-- A number is within reach of a pattern if it does not go past the middle to either
neighbour, nor to the middle unless the pattern is even. -/
@[mk_iff]
structure Within (x : ℚ) (p : Nat) : Prop where
  above : number (p - 1) + number p < 2 * x ∨ number (p - 1) + number p = 2 * x ∧ Even p
  below : 2 * x < number p + number (p + 1) ∨ 2 * x = number p + number (p + 1) ∧ Even p

section Middle

variable {x low high : ℚ}

theorem abs_sub_lt_iff_of_lt (h : low < high) :
    |x - low| < |x - high| ↔ 2 * x < low + high := by
  rw [← sq_lt_sq]
  constructor <;> intro <;> nlinarith

theorem lt_abs_sub_iff_of_lt (h : low < high) :
    |x - high| < |x - low| ↔ low + high < 2 * x := by
  rw [← sq_lt_sq]
  constructor <;> intro <;> nlinarith

theorem abs_sub_eq_iff_of_lt (h : low < high) :
    |x - low| = |x - high| ↔ 2 * x = low + high := by
  rw [eq_iff_le_not_lt, eq_iff_le_not_lt, ← not_lt, ← not_lt, abs_sub_lt_iff_of_lt h,
    lt_abs_sub_iff_of_lt h]

end Middle

section Rounding

variable {x y z : ℚ} {p q : Nat}

/-- What is rounded to a pattern is not nearer to a greater one. -/
theorem IsNearest.below_middle (h : IsNearest x p) (hlt : p < q) (hq : q ≤ infinity) :
    2 * x < number p + number q ∨ 2 * x = number p + number q ∧ Even p := by
  have hnumber := number_strictMono hlt
  rw [← abs_sub_lt_iff_of_lt hnumber, ← abs_sub_eq_iff_of_lt hnumber]
  exact h.nearer q hq hlt.ne'

/-- What is rounded to a pattern is not nearer to a smaller one. -/
theorem IsNearest.above_middle (h : IsNearest x p) (hlt : q < p) :
    number q + number p < 2 * x ∨ number q + number p = 2 * x ∧ Even p := by
  have hnumber := number_strictMono hlt
  rw [← lt_abs_sub_iff_of_lt hnumber, eq_comm, ← abs_sub_eq_iff_of_lt hnumber, eq_comm]
  exact h.nearer q (hlt.le.trans h.inRange) hlt.ne

/-- A number is rounded to no two patterns: if it were in the middle of two, both would be
even and a pattern between them nearer. -/
theorem IsNearest.unique (hp : IsNearest x p) (hq : IsNearest x q) : p = q := by
  wlog hlt : p < q generalizing p q
  · rcases (not_lt.mp hlt).eq_or_lt with heq | hgt
    · exact heq.symm
    · exact (this hq hp hgt).symm
  exfalso
  rcases hp.below_middle hlt hq.inRange with hbelow | ⟨hmiddle, hp_even⟩
  · rcases hq.above_middle hlt with habove | ⟨heq, -⟩ <;> linarith
  · rcases hq.above_middle hlt with habove | ⟨-, hq_even⟩
    · linarith
    have hbetween : p + 1 < q := by
      refine lt_of_le_of_ne hlt fun heq => ?_
      rw [← heq] at hq_even
      exact Nat.even_add_one.mp hq_even hp_even
    have hnumber := number_strictMono hbetween
    rcases hp.below_middle (Nat.lt_add_one p) (hbetween.le.trans hq.inRange) with
      hnear | ⟨heq, -⟩ <;> linarith

/-- Only the neighbours decide what is rounded to a finite number. -/
theorem isNearest_iff_within (hx : 0 ≤ x) (finite : p < infinity) :
    IsNearest x p ↔ Within x p := by
  constructor
  · intro h
    refine ⟨?_, h.below_middle p.lt_succ_self finite⟩
    cases p with
    | zero =>
        rw [Nat.zero_sub, number_zero, add_zero, and_iff_left (by decide), ← le_iff_lt_or_eq]
        linarith
    | succ q => exact h.above_middle q.lt_succ_self
  · intro h
    refine ⟨finite.le, fun other _ hne => ?_⟩
    rcases Nat.lt_or_gt_of_ne hne with hlt | hgt
    · have hnumber := number_strictMono hlt
      have hprevious := number_strictMono.monotone (Nat.le_sub_one_of_lt hlt)
      rw [lt_abs_sub_iff_of_lt hnumber, eq_comm, abs_sub_eq_iff_of_lt hnumber, eq_comm]
      rcases h.above with habove | ⟨heq, heven⟩
      · exact .inl (by linarith)
      · rw [and_iff_left heven, ← le_iff_lt_or_eq]
        linarith
    · have hnumber := number_strictMono hgt
      have hnext : number (p + 1) ≤ number other := number_strictMono.monotone hgt
      rw [abs_sub_lt_iff_of_lt hnumber, abs_sub_eq_iff_of_lt hnumber]
      rcases h.below with hbelow | ⟨heq, heven⟩
      · exact .inl (by linarith)
      · rw [and_iff_left heven, ← le_iff_lt_or_eq]
        linarith

/-- The number of a pattern is within its reach. -/
theorem within_number (p : Nat) : Within (number p) p := by
  have hnext := number_lt_succ p
  refine ⟨?_, .inl (by linarith)⟩
  cases p with
  | zero => exact .inr ⟨by rw [number_zero]; norm_num, by decide⟩
  | succ q =>
      have hprevious := number_lt_succ q
      exact .inl (by rw [Nat.add_sub_cancel]; linarith)

/-- What lies between two numbers within reach is within reach. -/
theorem Within.between (hx : Within x p) (hz : Within z p) (hxy : x ≤ y) (hyz : y ≤ z) :
    Within y p := by
  constructor
  · rcases hx.above with habove | ⟨heq, heven⟩
    · exact .inl (by linarith)
    · rw [and_iff_left heven, ← le_iff_lt_or_eq]
      linarith
  · rcases hz.below with hbelow | ⟨heq, heven⟩
    · exact .inl (by linarith)
    · rw [and_iff_left heven, ← le_iff_lt_or_eq]
      linarith

end Rounding

end Binary32

/-! ## Decimals -/

/-- The number that a decimal is. -/
def Fraction.value (x : Fraction) : ℚ := x.digits / 10 ^ x.places

namespace Magnitude

open Binary32

/-- How a decimal lies to the middle of two numbers, in units of both. -/
theorem middle_iff (p q : Nat) (x : Fraction) :
    let middle := 2 * ((magnitude p).units + (magnitude q).units) * Nat.pow 10 x.places
    let point := 4 * x.digits * unit
    (number p + number q < 2 * x.value ↔ middle < point) ∧
      (2 * x.value < number p + number q ↔ point < middle) ∧
      (number p + number q = 2 * x.value ↔ middle = point) := by
  intro middle point
  have hpos : (0 : ℚ) < 2 * unit * 10 ^ x.places := by
    rw [cast_unit]
    positivity
  have hmiddle : (number p + number q) * (2 * unit * 10 ^ x.places) = middle := by
    rw [number_eq, number_eq, cast_unit]
    simp only [middle, Nat.pow_eq]
    push_cast
    field_simp
  have hpoint : 2 * x.value * (2 * unit * 10 ^ x.places) = point := by
    simp only [Fraction.value, point]
    push_cast
    field_simp
    ring
  refine ⟨?_, ?_, ?_⟩
  · rw [← mul_lt_mul_iff_of_pos_right hpos, hmiddle, hpoint, Nat.cast_lt]
  · rw [← mul_lt_mul_iff_of_pos_right hpos, hmiddle, hpoint, Nat.cast_lt]
  · rw [← mul_left_inj' hpos.ne', hmiddle, hpoint, Nat.cast_inj]

/-- A decimal is found to be rounded to a magnitude exactly if it is within reach. -/
theorem roundsFrom_iff (p : Nat) (x : Fraction) :
    (magnitude p).roundsFrom x.digits x.places = true ↔ Within x.value p := by
  have hlow : 4 * (magnitude p).units - (if (magnitude p).closerBelow
      then Nat.pow 2 (magnitude p).exponent else 2 * Nat.pow 2 (magnitude p).exponent) =
      2 * ((magnitude (p - 1)).units + (magnitude p).units) := by
    cases p with
    | zero => rfl
    | succ q =>
        have hunits := units_succ q
        rw [stepBelow_eq, Nat.add_sub_cancel]
        omega
  have hhigh : 4 * (magnitude p).units + 2 * Nat.pow 2 (magnitude p).exponent =
      2 * ((magnitude p).units + (magnitude (p + 1)).units) := by
    have hunits := units_succ p
    omega
  obtain ⟨hpast, -, hat⟩ := middle_iff (p - 1) p x
  obtain ⟨-, hbefore, hat'⟩ := middle_iff p (p + 1) x
  rw [within_iff, hpast, hat, hbefore, eq_comm (a := 2 * x.value), hat']
  unfold roundsFrom
  simp only [hlow, hhigh, significand_mod_two, ← Nat.even_iff]
  split
  · next heven => simp [heven, le_iff_lt_or_eq, eq_comm (b := 4 * x.digits * unit)]
  · next hodd => simp [hodd]

end Magnitude

end NwScript.Decimal
