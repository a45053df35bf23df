/-
# The characters of a text

A text is over a kind of characters if it has no others. Texts that are put together
are over a kind if their parts are; numbers and addresses are over the characters that
show within a line and are no braces, in short over ink. So what a text can have
besides ink comes from the names and the literals in it.
-/

import NwScript.Decimal.Shortest
import NwScript.Proofs.Text.Quoted
import NwScript.Text.Digits

namespace NwScript.Text

/-- A text has characters of a kind and no others. -/
def Over (kind : Char → Prop) (text : String) : Prop := ∀ c ∈ text.toList, kind c

instance (kind : Char → Prop) [DecidablePred kind] (text : String) : Decidable (Over kind text) :=
  List.decidableBAll kind text.toList

/-- A blank, or a character that shows and is no brace. -/
def IsInk (c : Char) : Prop := (' ' ≤ c ∧ c ≤ '~') ∧ c ≠ '\x7b' ∧ c ≠ '\x7d'

instance : DecidablePred IsInk := fun _ => inferInstanceAs (Decidable (_ ∧ _))

/-- Ink is told by the value of the character. -/
theorem isInk_iff {c : Char} :
    IsInk c ↔ 32 ≤ c.toNat ∧ c.toNat ≤ 126 ∧ c.toNat ≠ 123 ∧ c.toNat ≠ 125 := by
  simp only [IsInk, Char.le_def, UInt32.le_iff_toNat_le, ← Char.toNat_inj, and_assoc, ne_eq]
  exact Iff.rfl

/-- Ink ends no line. -/
theorem IsInk.ne_lineFeed {c : Char} (h : IsInk c) : c ≠ '\n' := by
  rintro rfl
  exact absurd h (by decide)

section Parts

variable {kind : Char → Prop}

/-- A text over a kind is over every wider one. -/
theorem Over.mono {wider : Char → Prop} {text : String} (h : Over kind text)
    (hwider : ∀ c, kind c → wider c) : Over wider text :=
  fun c hc => hwider c (h c hc)

theorem over_empty : Over kind "" := nofun

@[simp]
theorem over_append {first second : String} :
    Over kind (first ++ second) ↔ Over kind first ∧ Over kind second := by
  simp only [Over, String.toList_append, List.forall_mem_append]

/-- Texts over a kind that are set apart by such a text stay over it. -/
theorem over_intercalate {separator : String} (hseparator : Over kind separator)
    {parts : List String} (hparts : ∀ part ∈ parts, Over kind part) :
    Over kind (separator.intercalate parts) := by
  induction parts with
  | nil => exact over_empty
  | cons first rest ih =>
      rw [List.forall_mem_cons] at hparts
      cases rest with
      | nil => simpa using hparts.1
      | cons second rest =>
          rw [String.intercalate_cons_cons, over_append, over_append]
          exact ⟨⟨hparts.1, hseparator⟩, ih hparts.2⟩

/-- Quoting adds backslashes only. -/
theorem Over.quote {text : String} (h : Over kind text) (hescape : kind '\\') :
    Over kind (quote text) := by
  intro c hc
  rw [Text.quote, String.toList_ofList] at hc
  obtain rfl | hmem := eq_or_mem_of_mem_escape hc
  · exact hescape
  · exact h c hmem

end Parts

section Numbers

/-- Digits are ink. -/
theorem isInk_of_isDigit {c : Char} (h : c.isDigit) : IsInk c := by
  rw [isInk_iff]
  simp [Char.isDigit, UInt32.le_iff_toNat_le] at h
  omega

theorem isInk_digitChar : ∀ value < 16, IsInk (digitChar value) := by
  decide

/-- Digits of a fixed count are ink. -/
theorem over_fixedDigits {base : Nat} (hpos : 0 < base) (hbase : base ≤ 16) (width n : Nat) :
    Over IsInk (String.ofList (fixedDigits base width n)) := by
  intro c hc
  rw [String.toList_ofList] at hc
  obtain ⟨value, hvalue, rfl⟩ := exists_of_mem_fixedDigits hpos hc
  exact isInk_digitChar value (Nat.lt_of_lt_of_le hvalue hbase)

theorem over_hex8 (byte : UInt8) : Over IsInk (hex8 byte) :=
  over_fixedDigits (by decide) (by decide) 2 byte.toNat

theorem over_hex32 (word : UInt32) : Over IsInk (hex32 word) :=
  over_fixedDigits (by decide) (by decide) 8 word.toNat

/-- A number is written in digits. -/
theorem over_repr (n : Nat) : Over (·.isDigit) (toString n) := by
  intro c hc
  rw [Nat.toString_eq_repr, Nat.toList_repr] at hc
  exact Nat.isDigit_of_mem_toDigits (by decide) (by decide) hc

theorem over_toString_nat (n : Nat) : Over IsInk (toString n) :=
  (over_repr n).mono fun _ => isInk_of_isDigit

theorem over_toString_int (n : Int) : Over IsInk (toString n) := by
  cases n with
  | ofNat n => exact over_toString_nat n
  | negSucc n =>
      show Over IsInk ("-" ++ toString (n + 1))
      exact over_append.mpr ⟨by decide, over_toString_nat (n + 1)⟩

/-- A decimal is ink. -/
theorem over_fraction (x : Decimal.Fraction) : Over IsInk x.text := by
  rw [Decimal.Fraction.text, over_append, over_append]
  exact ⟨⟨over_toString_nat _, by decide⟩, over_fixedDigits (by decide) (by decide) _ _⟩

/-- A number of 32 bits is ink. -/
theorem over_binary32 (x : Decimal.Binary32) : Over IsInk x.text := by
  cases x with
  | finite negative magnitude =>
      have hmagnitude : Over IsInk magnitude.text := by
        rw [Decimal.Magnitude.text]
        split
        · exact over_append.mpr ⟨over_toString_nat _, by decide⟩
        · exact over_fraction magnitude.shortest
      rw [Decimal.Binary32.text, over_append]
      exact ⟨by cases negative <;> decide, hmagnitude⟩
  | infinite negative => cases negative <;> decide
  | notANumber => decide

end Numbers

end NwScript.Text
