/-
# Decimal literals

A literal is an optional minus sign, digits, a point and more digits, and nothing else.
It is read as its digits over a power of ten, and there is one way to read it. So what is
written for a finite number of 32 bits is such a literal, and it is rounded to the bits
that it was written for and to no others.
-/

import NwScript.Proofs.Decimal.Shortest
import NwScript.Proofs.Text.Alphabet
import NwScript.Proofs.Text.Digits

namespace NwScript.Decimal

open Binary32

/-- A decimal literal: a sign, and digits before and behind the point. -/
structure Literal where
  negative : Bool
  whole : List Char
  places : List Char
  whole_ne_nil : whole ≠ []
  places_ne_nil : places ≠ []
  isDigit_whole : ∀ c ∈ whole, c.isDigit
  isDigit_places : ∀ c ∈ places, c.isDigit

namespace Literal

/-- A literal as it is written. -/
def text (literal : Literal) : String :=
  (if literal.negative then "-" else "") ++ String.ofList literal.whole ++ "." ++
    String.ofList literal.places

/-- The decimal that a literal is, without its sign. -/
def fraction (literal : Literal) : Fraction where
  digits := Nat.ofDigitChars 10 (literal.whole ++ literal.places) 0
  places := literal.places.length

/-- A literal is rounded to a word of its sign, and to the nearest of them. -/
def RoundsTo (literal : Literal) (word : UInt32) : Prop :=
  isNegative word = literal.negative ∧ IsNearest literal.fraction.value (pattern word)

section Reading

variable {digits : List Char} (h : ∀ c ∈ digits, c.isDigit)

include h in
theorem point_not_mem : '.' ∉ digits := fun hmem => absurd (h _ hmem) (by decide)

include h in
/-- Digits do not begin with a sign. -/
theorem digits_append_ne_minus (hne : digits ≠ []) (behind rest : List Char) :
    digits ++ behind ≠ '-' :: rest := by
  intro heq
  obtain ⟨first, tail, rfl⟩ := List.exists_cons_of_ne_nil hne
  obtain ⟨rfl, -⟩ := List.cons_eq_cons.mp heq
  exact absurd (h '-' List.mem_cons_self) (by decide)

/-- A literal can be read in one way only. -/
theorem text_injective : Function.Injective text := by
  rintro ⟨negative, whole, places, hne, _, hwhole, hplaces⟩
    ⟨negative', whole', places', hne', _, hwhole', _⟩ h
  have hchars := congrArg String.toList h
  simp only [text, String.toList_append, String.toList_ofList, List.append_assoc] at hchars
  have hparts : negative = negative' ∧ whole ++ '.' :: places = whole' ++ '.' :: places' := by
    cases negative <;> cases negative'
    · exact ⟨rfl, by simpa using hchars⟩
    · exact absurd (by simpa using hchars) (digits_append_ne_minus hwhole hne _ _)
    · exact absurd (by simpa using hchars.symm) (digits_append_ne_minus hwhole' hne' _ _)
    · exact ⟨rfl, by simpa using hchars⟩
  obtain ⟨rfl, hrest⟩ := hparts
  obtain ⟨rfl, -, rfl⟩ :=
    (List.append_cons_inj_of_notMem (point_not_mem hwhole) (point_not_mem hplaces)).mp hrest
  rfl

end Reading

section Writing

variable {negative : Bool} {x : Fraction}

theorem isDigit_digitChar : ∀ value < 10, (Text.digitChar value).isDigit := by
  decide

/-- The literal of a decimal that has places. -/
def ofFraction (negative : Bool) (x : Fraction) (h : 1 ≤ x.places) : Literal where
  negative := negative
  whole := Nat.toDigits 10 (x.digits / 10 ^ x.places)
  places := Text.fixedDigits 10 x.places x.digits
  whole_ne_nil := Nat.toDigits_ne_nil
  places_ne_nil hnil := by
    have hlength := Text.length_fixedDigits 10 x.places x.digits
    rw [hnil, List.length_nil] at hlength
    omega
  isDigit_whole _ := Nat.isDigit_of_mem_toDigits (by decide) (by decide)
  isDigit_places c hc := by
    obtain ⟨value, hvalue, rfl⟩ := Text.exists_of_mem_fixedDigits (by decide) hc
    exact isDigit_digitChar value hvalue

/-- A decimal is what its literal is read as. -/
theorem fraction_ofFraction (h : 1 ≤ x.places) : (ofFraction negative x h).fraction = x := by
  obtain ⟨digits, places⟩ := x
  simp only [fraction, ofFraction, Nat.ofDigitChars_append, Nat.ofDigitChars_ten_toDigits,
    Text.ofDigitChars_fixedDigits, Text.length_fixedDigits, Nat.div_add_mod]

theorem text_ofFraction (h : 1 ≤ x.places) :
    (ofFraction negative x h).text = (if negative then "-" else "") ++ x.text := by
  simp only [text, ofFraction, Fraction.text, Nat.toString_eq_ofList_toDigits, String.append_assoc]
  rfl

/-- The literal of a word that stands for a finite number. -/
def ofWord (word : UInt32) : Literal :=
  let decimal := (magnitude (pattern word)).decimal
  ofFraction (isNegative word) decimal (Magnitude.isShortest_decimal (pattern word)).least_le

variable {bits : UInt32}

theorem fraction_ofWord (word : UInt32) :
    (ofWord word).fraction = (magnitude (pattern word)).decimal :=
  fraction_ofFraction (Magnitude.isShortest_decimal (pattern word)).least_le

/-- A finite number is written as its literal. -/
theorem text_ofWord (finite : pattern bits < infinity) :
    (ofBits bits).text = (ofWord bits).text := by
  rw [ofBits_eq finite, Binary32.text, Magnitude.text_eq, ofWord, text_ofFraction]

/-- What is rounded to a word is within reach of its pattern. -/
theorem roundsTo_iff (finite : pattern bits < infinity) (literal : Literal) :
    literal.RoundsTo bits ↔
      isNegative bits = literal.negative ∧ Within literal.fraction.value (pattern bits) := by
  have hvalue : 0 ≤ literal.fraction.value := by
    unfold Fraction.value
    positivity
  rw [RoundsTo, isNearest_iff_within hvalue finite]

/-- The literal of a finite number is rounded to the bits of that number and to no others. -/
theorem roundsTo_ofWord_iff (finite : pattern bits < infinity) (word : UInt32) :
    (ofWord bits).RoundsTo word ↔ word = bits := by
  have hround : (ofWord bits).RoundsTo bits := by
    rw [roundsTo_iff finite, fraction_ofWord]
    exact ⟨rfl, (Magnitude.isShortest_decimal _).within⟩
  constructor
  · intro hother
    exact eq_of_pattern_eq (hother.1.trans hround.1.symm) (hother.2.unique hround.2)
  · rintro rfl
    exact hround

/-- No literal that is rounded to a finite number has fewer places than that of the number,
and none of as many is nearer. -/
theorem ofWord_shortest (finite : pattern bits < infinity) {other : Literal}
    (h : other.RoundsTo bits) :
    (ofWord bits).places.length ≤ other.places.length ∧
      (other.places.length = (ofWord bits).places.length →
        |number (pattern bits) - (ofWord bits).fraction.value| ≤
          |number (pattern bits) - other.fraction.value|) := by
  have hshortest := Magnitude.isShortest_decimal (pattern bits)
  have hwithin := ((roundsTo_iff finite other).mp h).2
  have hplaces : 1 ≤ other.fraction.places := List.length_pos_iff.mpr other.places_ne_nil
  rw [← fraction_ofWord bits] at hshortest
  exact ⟨hshortest.fewest _ hplaces hwithin, fun hlength => hshortest.nearest _ hlength hwithin⟩

end Writing

end Literal

end NwScript.Decimal
