/-
# What the shortest decimal is

A number is written by a decimal that is rounded to it. On a grid of decimals one of the
two neighbours of the number is the nearest to it, and if any decimal of the grid is within
reach of the number, so is a neighbour on its side. Hence the search finds the first grid
with a decimal that reads back, and on it the nearest; it ends at the latest where the number
lies on the grid. A whole number is written exactly, so it needs no search.
-/

import NwScript.Proofs.Decimal.Rounding

namespace NwScript.Decimal

open Binary32

/-- A decimal is rounded to a pattern, and none of as many places that is so is nearer. -/
structure Fraction.IsBest (x : Fraction) (p : Nat) : Prop where
  within : Within x.value p
  nearest : ∀ other : Fraction, other.places = x.places → Within other.value p →
    |number p - x.value| ≤ |number p - other.value|

/-- Of the decimals with at least so many places none that is rounded to a pattern has fewer,
and none of as many is nearer. -/
structure Fraction.IsShortest (x : Fraction) (p least : Nat) : Prop extends x.IsBest p where
  least_le : least ≤ x.places
  fewest : ∀ other : Fraction, least ≤ other.places → Within other.value p →
    x.places ≤ other.places

/-- A decimal that is the number is the best of its grid. -/
theorem Fraction.isBest_of_value_eq {x : Fraction} {p : Nat} (h : x.value = number p) :
    x.IsBest p where
  within := h ▸ within_number p
  nearest other _ _ := by
    rw [h, sub_self, abs_zero]
    exact abs_nonneg _

namespace Magnitude

/-! ## One grid -/

/-- The decimals of a grid are in the order of their digits. -/
theorem value_le_value (places : Nat) {first second : Nat} (h : first ≤ second) :
    (Fraction.mk first places).value ≤ (Fraction.mk second places).value := by
  unfold Fraction.value
  gcongr

/-- The greatest decimal of a grid that is not above a number, by its digits. -/
def floorOn (p places : Nat) : Nat := (magnitude p).units * Nat.pow 10 places / unit

section Grid

variable (p places : Nat)

theorem value_le_number_iff {digits : Nat} :
    (Fraction.mk digits places).value ≤ number p ↔ digits ≤ floorOn p places := by
  have hunit : 0 < unit := Nat.pow_pos (by decide)
  have hunit' : (0 : ℚ) < unit := Nat.cast_pos.mpr hunit
  rw [floorOn, Nat.le_div_iff_mul_le hunit, number_eq, Fraction.value,
    div_le_div_iff₀ (by positivity) hunit', Nat.pow_eq]
  exact_mod_cast Iff.rfl

/-- The floor of a grid is not above the number. -/
theorem floorOn_le : (Fraction.mk (floorOn p places) places).value ≤ number p :=
  (value_le_number_iff p places).mpr le_rfl

/-- The decimal after the floor is above the number. -/
theorem lt_floorOn_succ : number p < (Fraction.mk (floorOn p places + 1) places).value :=
  not_le.mp fun h => Nat.not_succ_le_self _ ((value_le_number_iff p places).mp h)

/-- The remainder tells which of the two neighbours is nearer. -/
theorem floorOn_nearer_iff :
    |number p - (Fraction.mk (floorOn p places) places).value| <
        |number p - (Fraction.mk (floorOn p places + 1) places).value| ↔
      2 * ((magnitude p).units * Nat.pow 10 places % unit) < unit := by
  have hpos : (0 : ℚ) < unit * 10 ^ places := by
    rw [cast_unit]
    positivity
  have hdiv := Nat.div_add_mod ((magnitude p).units * Nat.pow 10 places) unit
  have hnumber : 2 * number p * (unit * 10 ^ places) =
      (2 * ((magnitude p).units * Nat.pow 10 places) : Nat) := by
    rw [number_eq, cast_unit, Nat.pow_eq]
    push_cast
    field_simp
  have hmiddle : ((Fraction.mk (floorOn p places) places).value +
      (Fraction.mk (floorOn p places + 1) places).value) * (unit * 10 ^ places) =
        (2 * (unit * floorOn p places) + unit : Nat) := by
    unfold Fraction.value
    push_cast
    field_simp
    ring
  have hlt := (floorOn_le p places).trans_lt (lt_floorOn_succ p places)
  rw [abs_sub_lt_iff_of_lt hlt, ← mul_lt_mul_iff_of_pos_right hpos, hnumber, hmiddle,
    Nat.cast_lt, floorOn]
  omega

variable {p places} {digits : Nat}

/-- If a decimal that is not above the number is within reach, so is the floor, and it is
not farther away. -/
theorem floorOn_of_within (h : Within (Fraction.mk digits places).value p)
    (hdigits : digits ≤ floorOn p places) :
    Within (Fraction.mk (floorOn p places) places).value p ∧
      |number p - (Fraction.mk (floorOn p places) places).value| ≤
        |number p - (Fraction.mk digits places).value| := by
  have hle := value_le_value places hdigits
  have hfloor := floorOn_le p places
  refine ⟨h.between (within_number p) hle hfloor, ?_⟩
  rw [abs_of_nonneg (by linarith), abs_of_nonneg (by linarith)]
  linarith

/-- If a decimal above the number is within reach, so is the one after the floor, and it is
not farther away. -/
theorem floorOn_succ_of_within (h : Within (Fraction.mk digits places).value p)
    (hdigits : floorOn p places < digits) :
    Within (Fraction.mk (floorOn p places + 1) places).value p ∧
      |number p - (Fraction.mk (floorOn p places + 1) places).value| ≤
        |number p - (Fraction.mk digits places).value| := by
  have hle := value_le_value places (Nat.succ_le_of_lt hdigits)
  have hnext := lt_floorOn_succ p places
  refine ⟨(within_number p).between h hnext.le hle, ?_⟩
  rw [abs_of_nonpos (by linarith), abs_of_nonpos (by linarith)]
  linarith

/-- A decimal within reach is the best of its grid if neither neighbour of the number is
nearer. -/
theorem isBest_of_neighbour (h : Within (Fraction.mk digits places).value p)
    (hother : ∀ other, other = floorOn p places ∨ other = floorOn p places + 1 →
      Within (Fraction.mk other places).value p →
        |number p - (Fraction.mk digits places).value| ≤
          |number p - (Fraction.mk other places).value|) :
    (Fraction.mk digits places).IsBest p := by
  refine ⟨h, ?_⟩
  intro ⟨other, count⟩ hcount hwithin
  cases hcount
  rcases Nat.lt_or_ge (floorOn p places) other with habove | hbelow
  · obtain ⟨hnext, hle⟩ := floorOn_succ_of_within hwithin habove
    exact (hother _ (.inr rfl) hnext).trans hle
  · obtain ⟨hfloor, hle⟩ := floorOn_of_within hwithin hbelow
    exact (hother _ (.inl rfl) hfloor).trans hle

/-- The decimal that is found on a grid is the best of it. -/
theorem isBest_of_nearestOn? (h : (magnitude p).nearestOn? places = some digits) :
    (Fraction.mk digits places).IsBest p := by
  have hfloor := roundsFrom_iff p ⟨floorOn p places, places⟩
  have hnext := roundsFrom_iff p ⟨floorOn p places + 1, places⟩
  have hnearer := floorOn_nearer_iff p places
  unfold nearestOn? at h
  dsimp only at hfloor hnext h
  rw [← floorOn] at h
  split at h
  · next hfloor' hnext' =>
      rw [Option.some.injEq] at h
      split at h
      · next hless =>
          subst h
          refine isBest_of_neighbour (hfloor.mp hfloor') ?_
          rintro other (rfl | rfl) _
          · exact le_rfl
          · exact (hnearer.mpr hless).le
      · next hmore =>
          subst h
          refine isBest_of_neighbour (hnext.mp hnext') ?_
          rintro other (rfl | rfl) _
          · exact not_lt.mp (hnearer.not.mpr hmore)
          · exact le_rfl
  · next hfloor' hnext' =>
      cases h
      refine isBest_of_neighbour (hfloor.mp hfloor') ?_
      rintro other (rfl | rfl) hwithin
      · exact le_rfl
      · rw [hnext.mpr hwithin] at hnext'
        cases hnext'
  · next hfloor' hnext' =>
      cases h
      refine isBest_of_neighbour (hnext.mp hnext') ?_
      rintro other (rfl | rfl) hwithin
      · rw [hfloor.mpr hwithin] at hfloor'
        cases hfloor'
      · exact le_rfl
  · cases h

/-- If nothing is found on a grid, no decimal of it is within reach. -/
theorem not_within_of_nearestOn? (h : (magnitude p).nearestOn? places = none) (digits : Nat) :
    ¬ Within (Fraction.mk digits places).value p := by
  intro hwithin
  have hfloor := roundsFrom_iff p ⟨floorOn p places, places⟩
  have hnext := roundsFrom_iff p ⟨floorOn p places + 1, places⟩
  unfold nearestOn? at h
  dsimp only at hfloor hnext h
  rw [← floorOn] at h
  rcases Nat.lt_or_ge (floorOn p places) digits with habove | hbelow
  · rw [hnext.mpr (floorOn_succ_of_within hwithin habove).1] at h
    split at h <;> cases h
    contradiction
  · rw [hfloor.mpr (floorOn_of_within hwithin hbelow).1] at h
    split at h <;> cases h
    contradiction

end Grid

/-! ## All grids -/

/-- All numbers are on the grid of 149 places. -/
theorem value_floorOn (p : Nat) : (Fraction.mk (floorOn p 149) 149).value = number p := by
  have hten : 10 ^ 149 = 5 ^ 149 * 2 ^ 149 := by norm_num
  have hfloor : floorOn p 149 = (magnitude p).units * 5 ^ 149 := by
    rw [floorOn, unit, Nat.pow_eq, Nat.pow_eq, hten, ← Nat.mul_assoc,
      Nat.mul_div_cancel _ (by positivity)]
  have hten' : (10 : ℚ) ^ 149 = 5 ^ 149 * 2 ^ 149 := by norm_num
  rw [Fraction.value, hfloor, number_eq, cast_unit, hten', Nat.cast_mul, Nat.cast_pow,
    Nat.cast_ofNat, mul_comm ((magnitude p).units : ℚ)]
  exact mul_div_mul_left _ _ (pow_ne_zero 149 (by norm_num))

/-- From a grid on, the search finds the shortest decimal, if it goes as far as the grid that
all numbers are on. -/
theorem isShortest_shortestFrom (p fuel places : Nat) (h : fuel + places = 149) :
    ((magnitude p).shortestFrom fuel places).IsShortest p places := by
  induction fuel generalizing places with
  | zero =>
      obtain rfl : places = 149 := by omega
      exact ⟨Fraction.isBest_of_value_eq (value_floorOn p), le_rfl, fun _ hle _ => hle⟩
  | succ fuel ih =>
      rw [shortestFrom]
      split
      · next digits hfound => exact ⟨isBest_of_nearestOn? hfound, le_rfl, fun _ hle _ => hle⟩
      · next hnone =>
          have hrest := ih (places + 1) (by omega)
          refine ⟨hrest.toIsBest, (Nat.le_succ places).trans hrest.least_le, ?_⟩
          rintro ⟨digits, count⟩ hle hwithin
          rcases hle.eq_or_lt with rfl | hlt
          · exact absurd hwithin (not_within_of_nearestOn? hnone digits)
          · exact hrest.fewest _ hlt hwithin

/-- The decimal that a number is written as. -/
def decimal (x : Magnitude) : Fraction :=
  if x.isIntegral then ⟨x.units / unit * 10, 1⟩ else x.shortest

/-- A number is written as its decimal. -/
theorem text_eq (x : Magnitude) : x.text = x.decimal.text := by
  unfold text decimal
  split
  · have hwhole : x.units / unit * 10 / Nat.pow 10 1 = x.units / unit :=
      Nat.mul_div_cancel _ (by decide)
    have hplace : Text.fixedDigits 10 1 (x.units / unit * 10) = ['0'] := by
      rw [Text.fixedDigits, Text.fixedDigits, Nat.mul_mod_left]
      rfl
    rw [Fraction.text, hwhole, hplace, String.append_assoc]
    rfl
  · rfl

/-- A number is written as the shortest decimal with a digit behind the point. -/
theorem isShortest_decimal (p : Nat) : (magnitude p).decimal.IsShortest p 1 := by
  unfold decimal
  split
  · next hintegral =>
      have hunits : (magnitude p).units / unit * unit = (magnitude p).units :=
        Nat.div_mul_cancel (Nat.dvd_of_mod_eq_zero (by simpa [isIntegral] using hintegral))
      have hunit : (unit : ℚ) ≠ 0 := by
        rw [cast_unit]
        positivity
      have hvalue : (Fraction.mk ((magnitude p).units / unit * 10) 1).value = number p := by
        rw [Fraction.value, number_eq, eq_div_iff hunit, pow_one, Nat.cast_mul, Nat.cast_ofNat,
          mul_div_cancel_right₀ _ (by norm_num)]
        exact_mod_cast hunits
      exact ⟨Fraction.isBest_of_value_eq hvalue, le_rfl, fun _ hle _ => hle⟩
  · exact isShortest_shortestFrom p 148 1 rfl

/-- A whole number is written with its digits and one zero behind the point. -/
theorem text_of_number_eq {p whole : Nat} (h : number p = whole) :
    (magnitude p).text = toString whole ++ ".0" := by
  have hunit : 0 < unit := Nat.pow_pos (by decide)
  have hunits : (magnitude p).units = whole * unit := by
    rw [number_eq, div_eq_iff (Nat.cast_pos.mpr hunit).ne'] at h
    exact_mod_cast h
  have hintegral : (magnitude p).isIntegral = true := by
    rw [isIntegral, hunits, Nat.mul_mod_left]
    rfl
  rw [text, if_pos hintegral, hunits, Nat.mul_div_cancel _ hunit]

-- The greatest number has 39 digits before the point, though fewer would tell it from others.
example : (magnitude 0x7F7FFFFF).text = "340282346638528859811704183484516925440.0" := by
  decide +kernel

end Magnitude

end NwScript.Decimal
