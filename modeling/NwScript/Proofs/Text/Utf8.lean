/-
# What lossy reading of UTF-8 finds

Reading bytes as text finds a character wherever the bytes of one stand, and elsewhere
marks a run of bytes as broken: as many as still begin some character, or a single one
that begins none. `Lossy` says this of bytes and marks without the reader, by the
encodings of characters alone, and `scanUtf8_eq_iff` that the reader finds these marks
and no others. So the bytes of a text are read as that text.

The reader decides byte by byte, with a table of first bytes and a range for each byte
after them. That the table is right is `encode_eq_cons_iff`: what it lets through are the
encodings of characters, and its narrower ranges leave out overlong forms, surrogates and
what is past the last character.
-/

import Mathlib
import NwScript.Text.Utf8

namespace NwScript.Text

open String (utf8EncodeChar)

section Marks

/-- Some character begins with the bytes. -/
def Begins (run : List UInt8) : Prop := ∃ c, run <+: utf8EncodeChar c

/-- A run of bytes where no character stands, and all of it that can belong to one. -/
structure IsBroken (run rest : List UInt8) : Prop where
  ne_nil : run ≠ []
  /-- The bytes from here on begin with no character. -/
  noCharacter : ∀ c, ¬ utf8EncodeChar c <+: run ++ rest
  begins : run.length = 1 ∨ Begins run
  /-- No character begins with more of the bytes. -/
  maximal : ∀ longer, longer <+: run ++ rest → run.length < longer.length → ¬ Begins longer

/-- The characters that bytes encode, with a mark where they encode none. -/
inductive Lossy : List UInt8 → List (Option Char) → Prop
  | nil : Lossy [] []
  | char (c : Char) {rest : List UInt8} {found : List (Option Char)} (h : Lossy rest found) :
      Lossy (utf8EncodeChar c ++ rest) (some c :: found)
  | broken {run rest : List UInt8} {found : List (Option Char)} (broken : IsBroken run rest)
      (h : Lossy rest found) : Lossy (run ++ rest) (none :: found)

/-- The bytes of a character do not begin with those of another. -/
theorem encode_append_inj {c d : Char} {rest after : List UInt8}
    (h : utf8EncodeChar c ++ rest = utf8EncodeChar d ++ after) : c = d ∧ rest = after := by
  have hdecoded := congrArg (fun bytes => bytes.toByteArray.utf8DecodeChar? 0) h
  simp only [List.toByteArray_append, ByteArray.utf8DecodeChar?_utf8EncodeChar_append,
    Option.some.injEq] at hdecoded
  subst hdecoded
  exact ⟨rfl, List.append_cancel_left h⟩

/-- A run that is broken ends where every other one at its place does. -/
theorem IsBroken.length_le {run rest run' rest' : List UInt8} (h : IsBroken run rest)
    (h' : IsBroken run' rest') (heq : run ++ rest = run' ++ rest') :
    run'.length ≤ run.length := by
  by_contra hlt
  rw [Nat.not_le] at hlt
  -- A longer run would begin a character, and the first one could not have ended there.
  rcases h'.begins with hone | hbegins
  · have := List.length_pos_of_ne_nil h.ne_nil
    omega
  · exact h.maximal run' (heq ▸ List.prefix_append run' rest') hlt hbegins

/-- The marks of bytes are determined. -/
theorem Lossy.unique {bytes : List UInt8} {found other : List (Option Char)}
    (h : Lossy bytes found) (hother : Lossy bytes other) : found = other := by
  induction h generalizing other with
  | nil =>
      generalize hbytes : ([] : List UInt8) = bytes at hother
      cases hother with
      | nil => rfl
      | char d _ => exact absurd (List.nil_eq_append_iff.mp hbytes).1 String.utf8EncodeChar_ne_nil
      | broken hbroken _ => exact absurd (List.nil_eq_append_iff.mp hbytes).1 hbroken.ne_nil
  | @char c rest _ _ ih =>
      generalize hbytes : utf8EncodeChar c ++ rest = bytes at hother
      cases hother with
      | nil => exact absurd (List.append_eq_nil_iff.mp hbytes).1 String.utf8EncodeChar_ne_nil
      | char d hrest =>
          obtain ⟨rfl, rfl⟩ := encode_append_inj hbytes
          rw [ih hrest]
      | broken hbroken _ => exact absurd ⟨_, hbytes⟩ (hbroken.noCharacter c)
  | @broken run rest _ hbroken _ ih =>
      generalize hbytes : run ++ rest = bytes at hother
      cases hother with
      | nil => exact absurd (List.append_eq_nil_iff.mp hbytes).1 hbroken.ne_nil
      | char d _ => exact absurd ⟨_, hbytes.symm⟩ (hbroken.noCharacter d)
      | broken hbroken' hrest =>
          have hlength := Nat.le_antisymm (hbroken'.length_le hbroken hbytes.symm)
            (hbroken.length_le hbroken' hbytes)
          obtain ⟨rfl, rfl⟩ := List.append_inj hbytes hlength
          rw [ih hrest]

end Marks

section Table

/-- The bytes that a character of which the last ones are missing may end with. -/
def Partial.Completes : Partial → List UInt8 → Char → Prop
  | _, [], _ => False
  | p, b :: rest, c =>
      (p.low ≤ b ∧ b ≤ p.high) ∧
        match p.further with
        | 0 => rest = [] ∧ c = Char.ofNat (p.value * 64 + (b.toNat - 0x80))
        | further + 1 =>
            Completes ⟨p.value * 64 + (b.toNat - 0x80), further, 0x80, 0xBF⟩ rest c

/-- The bytes that may follow a first byte, and the character that they make with it. -/
def Lead.Spells : Lead → List UInt8 → Char → Prop
  | whole d, rest, c => rest = [] ∧ c = d
  | opens p, rest, c => p.Completes rest c
  | invalid, _, _ => False

/-- A byte that may stand behind the first one of a character. -/
def Continues (b : UInt8) : Prop := 0x80 ≤ b.toNat ∧ b.toNat ≤ 0xBF

variable {b : UInt8} {rest : List UInt8} {c : Char}

/-- The first byte of three narrows the range of the second where the form would be overlong
or a surrogate. -/
theorem lead_three (h : 0xE0 ≤ b.toNat ∧ b.toNat < 0xF0) :
    ∃ low high, lead b = .opens ⟨b.toNat - 0xE0, 1, low, high⟩ ∧
      ∀ b₁ : UInt8, low.toNat ≤ b₁.toNat ∧ b₁.toNat ≤ high.toNat ↔ Continues b₁ ∧
        (b.toNat = 0xE0 → 0xA0 ≤ b₁.toNat) ∧ (b.toNat = 0xED → b₁.toNat ≤ 0x9F) := by
  unfold lead
  simp only [UInt8.lt_iff_toNat_lt, ← UInt8.toNat_inj, UInt8.reduceToNat]
  rw [if_neg (by omega), if_neg (by omega), if_neg (by omega)]
  split
  · exact ⟨0xA0, 0xBF, by simp [*], by simp only [Continues, UInt8.reduceToNat]; omega⟩
  split
  · exact ⟨0x80, 0x9F, by simp [*], by simp only [Continues, UInt8.reduceToNat]; omega⟩
  · exact ⟨0x80, 0xBF, if_pos h.2, by simp only [Continues, UInt8.reduceToNat]; omega⟩

/-- The first byte of four narrows it where the form would be overlong or past the last
character. -/
theorem lead_four (h : 0xF0 ≤ b.toNat ∧ b.toNat ≤ 0xF4) :
    ∃ low high, lead b = .opens ⟨b.toNat - 0xF0, 2, low, high⟩ ∧
      ∀ b₁ : UInt8, low.toNat ≤ b₁.toNat ∧ b₁.toNat ≤ high.toNat ↔ Continues b₁ ∧
        (b.toNat = 0xF0 → 0x90 ≤ b₁.toNat) ∧ (b.toNat = 0xF4 → b₁.toNat ≤ 0x8F) := by
  unfold lead
  simp only [UInt8.lt_iff_toNat_lt, ← UInt8.toNat_inj, UInt8.reduceToNat]
  iterate 6 rw [if_neg (by omega)]
  split
  · exact ⟨0x90, 0xBF, by simp [*], by simp only [Continues, UInt8.reduceToNat]; omega⟩
  split
  · exact ⟨0x80, 0xBF, rfl, by simp only [Continues, UInt8.reduceToNat]; omega⟩
  · have hlast : b.toNat = 0xF4 := by omega
    exact ⟨0x80, 0x8F, by simp [hlast], by simp only [Continues, UInt8.reduceToNat]; omega⟩

/-! What may follow each class of first bytes, as values of the bytes. -/

theorem spells_one (h : b.toNat < 0x80) :
    (lead b).Spells rest c ↔ rest = [] ∧ c = Char.ofNat b.toNat := by
  rw [lead, if_pos (UInt8.lt_iff_toNat_lt.mpr h)]
  rfl

theorem spells_two (h : 0xC2 ≤ b.toNat ∧ b.toNat < 0xE0) :
    (lead b).Spells rest c ↔ ∃ b₁, rest = [b₁] ∧ Continues b₁ ∧
      c = Char.ofNat ((b.toNat - 0xC0) * 64 + (b₁.toNat - 0x80)) := by
  have hlead : lead b = .opens ⟨b.toNat - 0xC0, 0, 0x80, 0xBF⟩ := by
    unfold lead
    simp only [UInt8.lt_iff_toNat_lt, UInt8.reduceToNat]
    rw [if_neg (by omega), if_neg (by omega), if_pos h.2]
  rw [hlead]
  rcases rest with _ | ⟨b₁, _ | ⟨b₂, after⟩⟩ <;>
    simp [Lead.Spells, Partial.Completes, Continues, UInt8.le_iff_toNat_le]

theorem spells_three (h : 0xE0 ≤ b.toNat ∧ b.toNat < 0xF0) :
    (lead b).Spells rest c ↔ ∃ b₁ b₂, rest = [b₁, b₂] ∧ Continues b₁ ∧ Continues b₂ ∧
      (b.toNat = 0xE0 → 0xA0 ≤ b₁.toNat) ∧ (b.toNat = 0xED → b₁.toNat ≤ 0x9F) ∧
      c = Char.ofNat (((b.toNat - 0xE0) * 64 + (b₁.toNat - 0x80)) * 64 +
        (b₂.toNat - 0x80)) := by
  obtain ⟨low, high, hlead, hrange⟩ := lead_three h
  rw [hlead]
  rcases rest with _ | ⟨b₁, _ | ⟨b₂, _ | ⟨b₃, after⟩⟩⟩ <;>
    simp [Lead.Spells, Partial.Completes, UInt8.le_iff_toNat_le, hrange]
  simp only [Continues]
  tauto

theorem spells_four (h : 0xF0 ≤ b.toNat ∧ b.toNat ≤ 0xF4) :
    (lead b).Spells rest c ↔ ∃ b₁ b₂ b₃, rest = [b₁, b₂, b₃] ∧ Continues b₁ ∧ Continues b₂ ∧
      Continues b₃ ∧ (b.toNat = 0xF0 → 0x90 ≤ b₁.toNat) ∧ (b.toNat = 0xF4 → b₁.toNat ≤ 0x8F) ∧
      c = Char.ofNat ((((b.toNat - 0xF0) * 64 + (b₁.toNat - 0x80)) * 64 +
        (b₂.toNat - 0x80)) * 64 + (b₃.toNat - 0x80)) := by
  obtain ⟨low, high, hlead, hrange⟩ := lead_four h
  rw [hlead]
  rcases rest with _ | ⟨b₁, _ | ⟨b₂, _ | ⟨b₃, _ | ⟨b₄, after⟩⟩⟩⟩ <;>
    simp [Lead.Spells, Partial.Completes, UInt8.le_iff_toNat_le, hrange]
  simp only [Continues]
  tauto

theorem not_spells (h : 0x80 ≤ b.toNat ∧ b.toNat < 0xC2 ∨ 0xF4 < b.toNat) :
    ¬ (lead b).Spells rest c := by
  have hlead : lead b = .invalid := by
    unfold lead
    simp only [UInt8.lt_iff_toNat_lt, ← UInt8.toNat_inj, UInt8.reduceToNat]
    rw [if_neg (by omega)]
    split
    · rfl
    · iterate 7 rw [if_neg (by omega)]
  rw [hlead]
  exact id

end Table

section Encoding

variable {b : UInt8} {rest : List UInt8} {c : Char}

/-- A byte behind the first one, with the last six bits of a number. -/
def continuation (n : Nat) : UInt8 := UInt8.ofNat (0x80 + n % 64)

theorem toNat_continuation (n : Nat) : (continuation n).toNat = 0x80 + n % 64 := by
  rw [continuation, UInt8.toNat_ofNat', Nat.mod_eq_of_lt (by omega)]

theorem continues_continuation (n : Nat) : Continues (continuation n) := by
  rw [Continues, toNat_continuation]
  omega

theorem continuation_eq (h : Continues b) (m : Nat) :
    continuation (m * 64 + (b.toNat - 0x80)) = b := by
  obtain ⟨hlow, hhigh⟩ := h
  rw [← UInt8.toNat_inj, toNat_continuation]
  omega

/-- A character is no surrogate, and no more than the last one. -/
theorem toNat_valid (c : Char) : c.toNat < 0xD800 ∨ 0xDFFF < c.toNat ∧ c.toNat < 0x110000 :=
  c.valid

/-! The form of a character for each range of its value. -/

theorem encode_one (h : c.toNat < 0x80) : utf8EncodeChar c = [UInt8.ofNat c.toNat] :=
  if_pos (Nat.le_of_lt_succ h)

theorem encode_two (h : 0x80 ≤ c.toNat ∧ c.toNat < 0x800) :
    utf8EncodeChar c = [UInt8.ofNat (0xC0 + c.toNat / 64), continuation c.toNat] := by
  have hv : c.val.toNat = c.toNat := rfl
  simp only [utf8EncodeChar, hv, continuation, Nat.add_comm]
  rw [if_neg (by omega), if_pos (by omega), Nat.mod_eq_of_lt (b := 0x20) (by omega)]

theorem encode_three (h : 0x800 ≤ c.toNat ∧ c.toNat < 0x10000) :
    utf8EncodeChar c = [UInt8.ofNat (0xE0 + c.toNat / 4096), continuation (c.toNat / 64),
      continuation c.toNat] := by
  have hv : c.val.toNat = c.toNat := rfl
  simp only [utf8EncodeChar, hv, continuation, Nat.add_comm]
  rw [if_neg (by omega), if_neg (by omega), if_pos (by omega),
    Nat.mod_eq_of_lt (b := 0x10) (by omega)]

theorem encode_four (h : 0x10000 ≤ c.toNat) :
    utf8EncodeChar c = [UInt8.ofNat (0xF0 + c.toNat / 262144), continuation (c.toNat / 4096),
      continuation (c.toNat / 64), continuation c.toNat] := by
  have hv : c.val.toNat = c.toNat := rfl
  have hvalid := toNat_valid c
  simp only [utf8EncodeChar, hv, continuation, Nat.add_comm]
  rw [if_neg (by omega), if_neg (by omega), if_neg (by omega),
    Nat.mod_eq_of_lt (b := 0x08) (by omega)]

theorem eq_ofNat_iff {n : Nat} (h : n < 0xD800 ∨ 0xDFFF < n ∧ n < 0x110000) :
    c = Char.ofNat n ↔ c.toNat = n := by
  rw [← Char.toNat_inj, Char.toNat_ofNat, if_pos h]

/-- A byte of a character is the character itself or one of a longer form. -/
theorem toNat_of_mem_encode (h : b ∈ utf8EncodeChar c) :
    b.toNat = c.toNat ∨ 0x80 ≤ b.toNat := by
  have hvalid := toNat_valid c
  have hofNat {n : Nat} (hn : n < 256) : (UInt8.ofNat n).toNat = n := by
    rw [UInt8.toNat_ofNat', Nat.mod_eq_of_lt hn]
  have hcontinuation (n : Nat) : 0x80 ≤ (continuation n).toNat := (continues_continuation n).1
  rcases Nat.lt_or_ge c.toNat 0x80 with hone | hone
  · rw [encode_one hone, List.mem_singleton] at h
    exact .inl (h ▸ hofNat (by omega))
  right
  have hfirst {n : Nat} (hlow : 0x80 ≤ n) (hn : n < 256) : 0x80 ≤ (UInt8.ofNat n).toNat := by
    rwa [hofNat hn]
  rcases Nat.lt_or_ge c.toNat 0x800 with htwo | htwo
  · rw [encode_two ⟨hone, htwo⟩] at h
    revert b
    simp only [List.forall_mem_cons]
    exact ⟨hfirst (by omega) (by omega), hcontinuation _, nofun⟩
  rcases Nat.lt_or_ge c.toNat 0x10000 with hthree | hthree
  · rw [encode_three ⟨htwo, hthree⟩] at h
    revert b
    simp only [List.forall_mem_cons]
    exact ⟨hfirst (by omega) (by omega), hcontinuation _, hcontinuation _, nofun⟩
  · rw [encode_four hthree] at h
    revert b
    simp only [List.forall_mem_cons]
    exact ⟨hfirst (by omega) (by omega), hcontinuation _, hcontinuation _, hcontinuation _, nofun⟩

/-- The table lets every character through. -/
theorem spells_of_encode (h : utf8EncodeChar c = b :: rest) : (lead b).Spells rest c := by
  have hvalid := toNat_valid c
  have hfirst {n : Nat} (hn : n < 256) (hb : UInt8.ofNat n = b) : b.toNat = n := by
    rw [← hb, UInt8.toNat_ofNat', Nat.mod_eq_of_lt hn]
  rcases Nat.lt_or_ge c.toNat 0x80 with hone | hone
  · rw [encode_one hone] at h
    obtain ⟨hb, rfl⟩ := List.cons.inj h
    have hb := hfirst (by omega) hb
    rw [spells_one (by omega), hb, Char.ofNat_toNat]
    exact ⟨rfl, rfl⟩
  rcases Nat.lt_or_ge c.toNat 0x800 with htwo | htwo
  · rw [encode_two ⟨hone, htwo⟩] at h
    obtain ⟨hb, rfl⟩ := List.cons.inj h
    have hb := hfirst (by omega) hb
    rw [spells_two (by omega)]
    refine ⟨_, rfl, continues_continuation _, ?_⟩
    rw [eq_ofNat_iff] <;> rw [toNat_continuation] <;> omega
  rcases Nat.lt_or_ge c.toNat 0x10000 with hthree | hthree
  · rw [encode_three ⟨htwo, hthree⟩] at h
    obtain ⟨hb, rfl⟩ := List.cons.inj h
    have hb := hfirst (by omega) hb
    rw [spells_three (by omega)]
    refine ⟨_, _, rfl, continues_continuation _, continues_continuation _, ?_⟩
    simp only [toNat_continuation]
    refine ⟨by omega, by omega, ?_⟩
    rw [eq_ofNat_iff] <;> omega
  · rw [encode_four hthree] at h
    obtain ⟨hb, rfl⟩ := List.cons.inj h
    have hb := hfirst (by omega) hb
    rw [spells_four (by omega)]
    refine ⟨_, _, _, rfl, continues_continuation _, continues_continuation _,
      continues_continuation _, ?_⟩
    simp only [toNat_continuation]
    refine ⟨by omega, by omega, ?_⟩
    rw [eq_ofNat_iff] <;> omega

/-- The table lets nothing else through. -/
theorem encode_of_spells (h : (lead b).Spells rest c) : utf8EncodeChar c = b :: rest := by
  have hfirst {n : Nat} (hn : n = b.toNat) : UInt8.ofNat n = b := by
    rw [hn, UInt8.ofNat_toNat]
  by_cases hone : b.toNat < 0x80
  · obtain ⟨rfl, hc⟩ := (spells_one hone).mp h
    rw [eq_ofNat_iff (by omega)] at hc
    rw [encode_one (by omega), hfirst hc]
  by_cases htwo : 0xC2 ≤ b.toNat ∧ b.toNat < 0xE0
  · obtain ⟨b₁, rfl, h₁, hc⟩ := (spells_two htwo).mp h
    have := h₁.2
    rw [eq_ofNat_iff (by omega)] at hc
    rw [encode_two (by omega), hfirst (by omega), hc, continuation_eq h₁]
  by_cases hthree : 0xE0 ≤ b.toNat ∧ b.toNat < 0xF0
  · obtain ⟨b₁, b₂, rfl, h₁, h₂, hlow, hhigh, hc⟩ := (spells_three hthree).mp h
    have := h₁.2
    have := h₂.2
    rw [eq_ofNat_iff (by omega)] at hc
    have hm : c.toNat / 64 = (b.toNat - 0xE0) * 64 + (b₁.toNat - 0x80) := by omega
    rw [encode_three (by omega), hfirst (by omega), hm, hc, continuation_eq h₁,
      continuation_eq h₂]
  by_cases hfour : 0xF0 ≤ b.toNat ∧ b.toNat ≤ 0xF4
  · obtain ⟨b₁, b₂, b₃, rfl, h₁, h₂, h₃, hlow, hhigh, hc⟩ := (spells_four hfour).mp h
    have := h₁.2
    have := h₂.2
    have := h₃.2
    rw [eq_ofNat_iff (by omega)] at hc
    have hm : c.toNat / 4096 = (b.toNat - 0xF0) * 64 + (b₁.toNat - 0x80) := by omega
    have hm' : c.toNat / 64 =
        ((b.toNat - 0xF0) * 64 + (b₁.toNat - 0x80)) * 64 + (b₂.toNat - 0x80) := by omega
    rw [encode_four (by omega), hfirst (by omega), hm, hm', hc, continuation_eq h₁,
      continuation_eq h₂, continuation_eq h₃]
  · exact absurd h (not_spells (by omega))

/-- A character is encoded by a first byte and others exactly if the table says so. -/
theorem encode_eq_cons_iff : utf8EncodeChar c = b :: rest ↔ (lead b).Spells rest c :=
  ⟨spells_of_encode, encode_of_spells⟩

end Encoding

section Pass

variable {b : UInt8} {p : Partial} {seen rest : List UInt8} {c : Char}

/-- The bytes that were seen have begun a character, and what is known of it tells which
bytes complete it. -/
structure Opened (seen : List UInt8) (p : Partial) : Prop where
  encode_iff : ∀ rest c, utf8EncodeChar c = seen ++ rest ↔ p.Completes rest c
  low_le_high : p.low ≤ p.high
  ne_nil : seen ≠ []

/-- What completes a character begins with a byte in range. -/
theorem Partial.Completes.exists_head (h : p.Completes rest c) :
    ∃ b after, rest = b :: after ∧ p.low ≤ b ∧ b ≤ p.high := by
  cases rest with
  | nil => exact h.elim
  | cons b after => exact ⟨b, after, rfl, h.1⟩

/-- As long as a next byte is in range, some character can be completed. -/
theorem Partial.exists_completes (h : p.low ≤ p.high) : ∃ rest c, p.Completes rest c := by
  obtain ⟨value, further, low, high⟩ := p
  induction further generalizing value low high with
  | zero => exact ⟨[low], _, ⟨UInt8.le_refl low, h⟩, rfl, rfl⟩
  | succ further ih =>
      obtain ⟨rest, c, hrest⟩ := ih (value * 64 + (low.toNat - 0x80)) 0x80 0xBF
        (by decide : (0x80 : UInt8) ≤ 0xBF)
      exact ⟨low :: rest, c, ⟨UInt8.le_refl low, h⟩, hrest⟩

/-- A first byte that is not all of a character begins one. -/
theorem opened_lead (h : lead b = .opens p) : Opened [b] p where
  encode_iff rest c := by
    rw [List.singleton_append, encode_eq_cons_iff, h]
    rfl
  low_le_high := by
    unfold lead at h
    repeat' split at h
    all_goals simp only [reduceCtorEq, Lead.opens.injEq] at h
    all_goals rw [← h]; dsimp only; decide
  ne_nil := List.cons_ne_nil b []

/-- A byte in range that is not the last leaves fewer bytes missing. -/
theorem Opened.extend (h : Opened seen p) {further : Nat} (hfurther : p.further = further + 1)
    (hb : p.low ≤ b ∧ b ≤ p.high) :
    Opened (seen ++ [b]) ⟨p.value * 64 + (b.toNat - 0x80), further, 0x80, 0xBF⟩ where
  encode_iff rest c := by
    rw [List.append_assoc, List.singleton_append, h.encode_iff, Partial.Completes, hfurther]
    exact and_iff_right hb
  low_le_high := (by decide : (0x80 : UInt8) ≤ 0xBF)
  ne_nil := List.append_ne_nil_of_right_ne_nil seen (List.cons_ne_nil b [])

/-- The last byte makes a character of the bytes. -/
theorem Opened.complete (h : Opened seen p) (hfurther : p.further = 0)
    (hb : p.low ≤ b ∧ b ≤ p.high) :
    utf8EncodeChar (Char.ofNat (p.value * 64 + (b.toNat - 0x80))) = seen ++ [b] := by
  rw [h.encode_iff, Partial.Completes, hfurther]
  exact ⟨hb, rfl, rfl⟩

/-- Where the bytes end, or the next one is not in range, the bytes that were seen are a broken
run. -/
theorem Opened.isBroken (h : Opened seen p)
    (hrest : ∀ b ∈ rest.head?, ¬ (p.low ≤ b ∧ b ≤ p.high)) : IsBroken seen rest := by
  have hstops {c : Char} {more after : List UInt8} {b : UInt8} (hrest' : rest = b :: after)
      (hc : utf8EncodeChar c = seen ++ b :: more) : False :=
    hrest b (by simp [hrest']) ((h.encode_iff _ c).mp hc).1
  obtain ⟨last, d, hlast⟩ := Partial.exists_completes h.low_le_high
  have hd := (h.encode_iff last d).mpr hlast
  refine ⟨h.ne_nil, ?_, .inr ⟨d, last, hd.symm⟩, ?_⟩
  · rintro c ⟨after, hafter⟩
    rcases List.append_eq_append_iff.mp hafter with ⟨extra, hextra, _⟩ | ⟨more, hmore, hrest'⟩
    · -- A whole character would stand within the bytes that are not yet one.
      have hinner : utf8EncodeChar c ++ (extra ++ last) = utf8EncodeChar d ++ [] := by
        rw [hd, hextra, List.append_nil, List.append_assoc]
      have hnil := (List.append_eq_nil_iff.mp (encode_append_inj hinner).2).2
      rw [hnil] at hlast
      exact hlast
    · obtain ⟨b, others, rfl, _⟩ := ((h.encode_iff more c).mp hmore).exists_head
      exact hstops hrest' hmore
  · rintro longer ⟨after, hafter⟩ hlt ⟨c, missing, hc⟩
    rcases List.append_eq_append_iff.mp hafter with ⟨extra, hextra, _⟩ | ⟨more, hmore, hrest'⟩
    · rw [hextra, List.length_append] at hlt
      omega
    · cases more with
      | nil => simp [hmore] at hlt
      | cons b others =>
          exact hstops hrest' (by rw [← hc, hmore, List.append_assoc, List.cons_append])

/-- A byte that begins nothing is a broken run. -/
theorem isBroken_of_invalid (h : lead b = .invalid) (rest : List UInt8) : IsBroken [b] rest := by
  have hnone (c : Char) (more : List UInt8) : utf8EncodeChar c ≠ b :: more := by
    intro hc
    rw [encode_eq_cons_iff, h] at hc
    exact hc
  refine ⟨List.cons_ne_nil b [], ?_, .inl rfl, ?_⟩
  · rintro c ⟨after, hafter⟩
    cases hc : utf8EncodeChar c with
    | nil => exact String.utf8EncodeChar_ne_nil hc
    | cons first more =>
        rw [hc] at hafter
        obtain ⟨rfl, _⟩ := List.cons.inj hafter
        exact hnone c more hc
  · rintro longer ⟨after, hafter⟩ hlt ⟨c, more, hc⟩
    cases longer with
    | nil => cases hlt
    | cons first others =>
        obtain ⟨rfl, _⟩ := List.cons.inj hafter
        exact hnone c (others ++ more) hc.symm

/-- The rest of a pass finds the marks of bytes behind what was found before. -/
def Utf8State.Finds (state : Utf8State) (found : List (Option Char)) (rest bytes : List UInt8) :
    Prop :=
  ∃ marks, (rest.foldl step state).finish = found.reverse ++ marks ∧ Lossy bytes marks

/-- A whole character is found. -/
theorem Utf8State.Finds.char {state : Utf8State} {found : List (Option Char)} {bytes : List UInt8}
    (c : Char) (h : state.Finds (some c :: found) rest bytes) :
    state.Finds found rest (utf8EncodeChar c ++ bytes) := by
  obtain ⟨marks, hmarks, hlossy⟩ := h
  refine ⟨some c :: marks, ?_, .char c hlossy⟩
  rw [hmarks, List.reverse_cons, List.append_assoc, List.singleton_append]

/-- A broken run is marked. -/
theorem Utf8State.Finds.broken {state : Utf8State} {found : List (Option Char)}
    {run bytes : List UInt8} (hbroken : IsBroken run bytes)
    (h : state.Finds (none :: found) rest bytes) : state.Finds found rest (run ++ bytes) := by
  obtain ⟨marks, hmarks, hlossy⟩ := h
  refine ⟨none :: marks, ?_, .broken hbroken hlossy⟩
  rw [hmarks, List.reverse_cons, List.append_assoc, List.singleton_append]

/-- What a byte begins is found, if the rest of the pass finds what it has to. -/
theorem Utf8State.finds_start (hfresh : ∀ found, Finds ⟨found, none⟩ found rest rest)
    (hopened : ∀ found seen p, Opened seen p → Finds ⟨found, some p⟩ found rest (seen ++ rest))
    (found : List (Option Char)) (b : UInt8) : (start found b).Finds found rest (b :: rest) := by
  unfold start
  cases hlead : lead b with
  | whole c =>
      have hc : utf8EncodeChar c = [b] := by
        rw [encode_eq_cons_iff, hlead]
        exact ⟨rfl, rfl⟩
      have hfinds := (hfresh (some c :: found)).char c
      rwa [hc, List.singleton_append] at hfinds
  | opens p => exact hopened found [b] p (opened_lead hlead)
  | invalid => exact (hfresh (none :: found)).broken (isBroken_of_invalid hlead rest)

/-- A pass finds the marks of the bytes that it takes. In the middle of a character, these are
behind the ones that were seen of it. -/
theorem Utf8State.finds (bytes : List UInt8) :
    (∀ found, Finds ⟨found, none⟩ found bytes bytes) ∧
      ∀ found seen p, Opened seen p → Finds ⟨found, some p⟩ found bytes (seen ++ bytes) := by
  induction bytes with
  | nil =>
      have hend (found : List (Option Char)) : Finds ⟨found, none⟩ found [] [] :=
        ⟨[], (List.append_nil _).symm, .nil⟩
      refine ⟨hend, fun found seen p hopened => ?_⟩
      exact (hend (none :: found)).broken (hopened.isBroken nofun)
  | cons b rest ih =>
      obtain ⟨hfresh, hopened⟩ := ih
      have hstart := finds_start hfresh hopened
      refine ⟨fun found => hstart found b, fun found seen p hseen => ?_⟩
      rw [Finds, List.foldl_cons, step]
      dsimp only
      split
      · next hrange =>
          cases hfurther : p.further with
          | zero =>
              set c := Char.ofNat (p.value * 64 + (b.toNat - 0x80)) with hc
              have hfinds := (hfresh (some c :: found)).char c
              rwa [hc, hseen.complete hfurther hrange, List.append_assoc] at hfinds
          | succ further =>
              have hfinds := hopened found _ _ (hseen.extend hfurther hrange)
              rwa [List.append_assoc] at hfinds
      · next hrange =>
          -- The byte ends what was seen and is a beginning itself.
          refine (hstart (none :: found) b).broken (hseen.isBroken ?_)
          simpa using hrange

/-- The marks that are found are those that characters and broken runs have. -/
theorem scanUtf8_eq_iff {bytes : List UInt8} {found : List (Option Char)} :
    scanUtf8 bytes = found ↔ Lossy bytes found := by
  have hscan : Lossy bytes (scanUtf8 bytes) := by
    obtain ⟨marks, hmarks, hlossy⟩ := (Utf8State.finds bytes).1 []
    rw [scanUtf8, show ({} : Utf8State) = ⟨[], none⟩ from rfl, hmarks]
    exact hlossy
  constructor
  · rintro rfl
    exact hscan
  · exact hscan.unique

/-- A byte below the longer forms is a character, and it is in no broken run. -/
theorem IsBroken.high {run : List UInt8} (h : IsBroken run rest) :
    ∀ b ∈ run, 0x80 ≤ b.toNat := by
  intro b hb
  by_contra hlow
  rw [Nat.not_le] at hlow
  have hwhole : utf8EncodeChar (Char.ofNat b.toNat) = [b] := by
    rw [encode_eq_cons_iff, spells_one hlow]
    exact ⟨rfl, rfl⟩
  have hrun : run = [b] := by
    rcases h.begins with hone | ⟨c, hc⟩
    · obtain ⟨first, rfl⟩ := List.length_eq_one_iff.mp hone
      rw [List.mem_singleton.mp hb]
    · have hcb : c.toNat = b.toNat := by
        have := toNat_of_mem_encode (hc.subset hb)
        omega
      rw [← hcb, Char.ofNat_toNat] at hwhole
      rw [hwhole] at hc
      exact (List.prefix_cons_iff.mp hc).elim (fun hnil => absurd hnil h.ne_nil)
        fun ⟨more, hmore, hempty⟩ => by rw [hmore, List.prefix_nil.mp hempty]
  exact h.noCharacter _ ⟨rest, by rw [hwhole, hrun]⟩

/-- The bytes of a text have the marks of its characters. -/
theorem lossy_utf8Bytes (text : String) : Lossy (utf8Bytes text) (text.toList.map some) := by
  rw [utf8Bytes_eq_flatMap]
  induction text.toList with
  | nil => exact .nil
  | cons c rest ih => exact .char c ih

/-- The bytes of a text are read as the text. -/
theorem decodeLossy_utf8Bytes (text : String) : decodeLossy (utf8Bytes text) = text := by
  rw [decodeLossy, scanUtf8_eq_iff.mpr (lossy_utf8Bytes text), List.map_map]
  simp [Function.comp_def]

end Pass

end NwScript.Text
