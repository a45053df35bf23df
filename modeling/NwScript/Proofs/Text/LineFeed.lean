/-
# Line feeds in texts

How many lines end within a text is the count of its line feeds, and that count
adds up over the parts of a text. Numbers, addresses and columns have none, quotes
add none, and a text that is decoded from bytes has one for each byte that is a
line feed: such a byte is never part of a longer character, even where the bytes
are broken.
-/

import Mathlib
import NwScript.Proofs.Text.Alphabet
import NwScript.Proofs.Text.Utf8
import NwScript.Text.Padding

namespace NwScript.Text

/-- How many lines end within a text. -/
def lineFeeds (text : String) : Nat := text.toList.count '\n'

section Parts

variable {text : String}

/-- Line feeds add up. -/
@[simp]
theorem lineFeeds_append (first second : String) :
    lineFeeds (first ++ second) = lineFeeds first + lineFeeds second := by
  rw [lineFeeds, String.toList_append, List.count_append]
  rfl

/-- A text has no line feed exactly if it is over the other characters. -/
theorem lineFeeds_eq_zero_iff : lineFeeds text = 0 ↔ Over (· ≠ '\n') text := by
  rw [lineFeeds, List.count_eq_zero]
  exact ⟨fun h c hc heq => h (heq ▸ hc), fun h hmem => h _ hmem rfl⟩

/-- Ink makes a single line. -/
theorem lineFeeds_of_ink (h : Over IsInk text) : lineFeeds text = 0 :=
  lineFeeds_eq_zero_iff.mpr (h.mono fun _ => IsInk.ne_lineFeed)

/-- Quoting neither adds nor hides a line feed. -/
@[simp]
theorem lineFeeds_quote (text : String) : lineFeeds (quote text) = lineFeeds text := by
  rw [lineFeeds, lineFeeds, quote, String.toList_ofList]
  induction text.toList with
  | nil => rfl
  | cons c rest ih =>
      rw [escape_cons]
      split
      · rw [List.count_cons, List.count_cons, ih]
      · rw [List.count_cons, List.count_cons, List.count_cons, ih]
        rfl

end Parts

section Numbers

@[simp]
theorem lineFeeds_hex32 (word : UInt32) : lineFeeds (hex32 word) = 0 :=
  lineFeeds_of_ink (over_hex32 word)

@[simp]
theorem lineFeeds_toString_int (n : Int) : lineFeeds (toString n) = 0 :=
  lineFeeds_of_ink (over_toString_int n)

end Numbers

section Columns

/-- Blanks have no line feed. -/
theorem lineFeeds_replicate {c : Char} (h : c ≠ '\n') (count : Nat) :
    lineFeeds (String.ofList (List.replicate count c)) = 0 := by
  rw [lineFeeds, String.toList_ofList, List.count_replicate, if_neg (by simpa using h)]

@[simp]
theorem lineFeeds_spaces (count : Nat) : lineFeeds (spaces count) = 0 :=
  lineFeeds_replicate (by decide) count

@[simp]
theorem lineFeeds_tabs (count : Nat) : lineFeeds (tabs count) = 0 :=
  lineFeeds_replicate (by decide) count

@[simp]
theorem lineFeeds_padRight (width : Nat) (text : String) :
    lineFeeds (padRight width text) = lineFeeds text := by
  rw [padRight, lineFeeds_append, lineFeeds_spaces, Nat.add_zero]

end Columns

section Decoding

/-- A character has the byte of a line feed exactly if it is one. -/
theorem count_lineFeed_encode (c : Char) :
    (String.utf8EncodeChar c).count 0x0A = if c = '\n' then 1 else 0 := by
  split
  · next hc =>
      rw [hc]
      rfl
  · next hc =>
      rw [List.count_eq_zero]
      intro hmem
      rcases toNat_of_mem_encode hmem with heq | hhigh
      · exact hc (Char.toNat_inj.mp heq.symm)
      · simp at hhigh

/-- The marks of bytes have a line feed for each byte that is one. -/
theorem Lossy.count_lineFeed {bytes : List UInt8} {marks : List (Option Char)}
    (h : Lossy bytes marks) :
    (marks.map fun mark => mark.getD replacement).count '\n' = bytes.count 0x0A := by
  induction h with
  | nil => rfl
  | char c _ ih =>
      rw [List.count_append, count_lineFeed_encode, ← ih, List.map_cons, List.count_cons,
        Nat.add_comm]
      simp
  | broken hbroken _ ih =>
      have hnone := List.count_eq_zero.mpr fun hmem => absurd (hbroken.high 0x0A hmem) (by decide)
      rw [List.count_append, hnone, ← ih, Nat.zero_add, List.map_cons, List.count_cons]
      rfl

/-- A decoded text has a line feed for each byte that is one. -/
theorem lineFeeds_decodeLossy (bytes : List UInt8) :
    lineFeeds (decodeLossy bytes) = bytes.count 0x0A := by
  rw [lineFeeds, decodeLossy, String.toList_ofList]
  exact (scanUtf8_eq_iff.mp rfl).count_lineFeed

end Decoding

end NwScript.Text
