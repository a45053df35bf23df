/-
# What is written spells the value

The text that is written for a value is a spelling of it. For a string, every
character is looked at by itself: whether it stands for itself, behind a
backslash or by its number, what is written is taken for its bytes, and those of
the whole string are UTF-8 again.
-/

import NwScript.Proofs.Json.Spelling
import NwScript.Proofs.Text.Utf8

namespace NwScript.Json

open Text (toNat_of_mem_encode utf8Bytes utf8Bytes_append utf8Bytes_eq_flatMap)

/-! ## Strings -/

/-- The parts of a string are decoded to bytes, whatever was decoded before them. -/
def DecodeTo (fragments : List Fragment) (bytes : List UInt8) : Prop :=
  ∀ taken : List UInt8, fragments.foldlM StringState.step ⟨taken, none⟩ =
    .ok ⟨bytes.reverse ++ taken, none⟩

/-- What is written in a string stands for bytes. -/
def StandsFor (written bytes : List UInt8) : Prop :=
  ∃ fragments, SpellsFragments fragments written ∧ DecodeTo fragments bytes

theorem StandsFor.nil : StandsFor [] [] := ⟨[], .nil, fun _ => rfl⟩

theorem SpellsFragments.append {first second : List Fragment} {bytes rest : List UInt8}
    (h : SpellsFragments first bytes) (h' : SpellsFragments second rest) :
    SpellsFragments (first ++ second) (bytes ++ rest) := by
  induction h with
  | nil => exact h'
  | cons head _ ih =>
      rw [List.cons_append, List.append_assoc]
      exact .cons head ih

theorem StandsFor.append {written bytes written' bytes' : List UInt8} (h : StandsFor written bytes)
    (h' : StandsFor written' bytes') : StandsFor (written ++ written') (bytes ++ bytes') := by
  obtain ⟨first, hfirst, stands⟩ := h
  obtain ⟨second, hsecond, stands'⟩ := h'
  refine ⟨first ++ second, hfirst.append hsecond, fun taken => ?_⟩
  rw [List.foldlM_append, stands]
  exact (stands' _).trans (by simp)

/-- A byte that needs no escape is written as it is. -/
theorem StandsFor.plain {b : UInt8} (hcontrol : 0x20 ≤ b) (hquote : b ≠ 0x22)
    (hescape : b ≠ 0x5C) : StandsFor [b] [b] :=
  ⟨[.byte b], .cons (.plain hcontrol hquote hescape) .nil, fun _ => rfl⟩

theorem StandsFor.plains {bytes : List UInt8}
    (h : ∀ b ∈ bytes, 0x20 ≤ b ∧ b ≠ 0x22 ∧ b ≠ 0x5C) : StandsFor bytes bytes := by
  induction bytes with
  | nil => exact .nil
  | cons b rest ih =>
      obtain ⟨hcontrol, hquote, hescape⟩ := h b List.mem_cons_self
      exact (StandsFor.plain hcontrol hquote hescape).append
        (ih fun c hc => h c (List.mem_cons_of_mem b hc))

/-- A character that needs no escape is written as it is. -/
theorem standsFor_plain {c : Char} (hcontrol : 0x20 ≤ c.toNat) (hquote : c ≠ '"')
    (hescape : c ≠ '\\') :
    StandsFor (String.utf8EncodeChar c) (String.utf8EncodeChar c) := by
  have hquote : c.toNat ≠ 0x22 := fun h => hquote (Char.toNat_inj.mp h)
  have hescape : c.toNat ≠ 0x5C := fun h => hescape (Char.toNat_inj.mp h)
  refine .plains fun b hb => ?_
  have hb := toNat_of_mem_encode hb
  simp only [UInt8.le_iff_toNat_le, ne_eq, ← UInt8.toNat_inj, UInt8.reduceToNat]
  omega

/-- The letter of a short escape is one byte, which is taken for that of the
character. -/
theorem escapeLetter?_eq_some {c letter : Char} (h : escapeLetter? c = some letter) :
    ∃ l b, String.utf8EncodeChar letter = [l] ∧ shortEscape? l = some b ∧
      String.utf8EncodeChar c = [b] := by
  unfold escapeLetter? at h
  split at h
  · next hc =>
      obtain rfl := Option.some.inj h
      rw [Bool.or_eq_true, decide_eq_true_iff, decide_eq_true_iff] at hc
      rcases hc with rfl | rfl <;> exact ⟨_, _, rfl, rfl, rfl⟩
  · repeat' split at h
    case isFalse => cases h
    all_goals
      obtain rfl := Option.some.inj h
      subst_vars
      exact ⟨_, _, rfl, rfl, rfl⟩

/-- The letter of a short escape stands for the character. -/
theorem standsFor_letter {c letter : Char} (h : escapeLetter? c = some letter) :
    StandsFor (['\\', letter].flatMap String.utf8EncodeChar) (String.utf8EncodeChar c) := by
  obtain ⟨l, b, hl, hb, hc⟩ := escapeLetter?_eq_some h
  refine ⟨[.byte b], ?_, fun taken => by rw [hc]; rfl⟩
  have bytes : ['\\', letter].flatMap String.utf8EncodeChar = [0x5C, l] := by
    simp only [List.flatMap_cons, hl]
    rfl
  rw [bytes]
  exact .cons (.short hb) .nil

/-- A hexadecimal digit is one byte, which has its value. -/
theorem hexDigit?_digitChar : ∀ {d : Nat}, d < 16 →
    String.utf8EncodeChar (Nat.digitChar d) = [(Nat.digitChar d).toUInt8] ∧
      hexDigit? (Nat.digitChar d).toUInt8 = some d := by
  decide

/-- The number of a control character stands for it. -/
theorem standsFor_number {c : Char} (h : c.toNat < 0x20) :
    StandsFor
      (['\\', 'u', '0', '0', Nat.digitChar (c.toNat / 16), Nat.digitChar (c.toNat % 16)].flatMap
        String.utf8EncodeChar) (String.utf8EncodeChar c) := by
  have high : c.toNat / 16 < 16 := by omega
  have low : c.toNat % 16 < 16 := by omega
  obtain ⟨highByte, highDigit⟩ := hexDigit?_digitChar high
  obtain ⟨lowByte, lowDigit⟩ := hexDigit?_digitChar low
  refine ⟨[.unit c.toNat], ?_, fun taken => ?_⟩
  · have digits : [0x30, 0x30, (Nat.digitChar (c.toNat / 16)).toUInt8,
        (Nat.digitChar (c.toNat % 16)).toUInt8].mapM hexDigit? =
          some [0, 0, c.toNat / 16, c.toNat % 16] := by
      simp [highDigit, lowDigit, show hexDigit? 0x30 = some 0 from rfl]
    have code : [0, 0, c.toNat / 16, c.toNat % 16].foldl (fun n d => n * 16 + d) 0 = c.toNat := by
      simp only [List.foldl_cons, List.foldl_nil]
      omega
    have unit := Fragment.Spells.unit digits
    rw [code] at unit
    have bytes : ['\\', 'u', '0', '0', Nat.digitChar (c.toNat / 16),
        Nat.digitChar (c.toNat % 16)].flatMap String.utf8EncodeChar =
          [0x5C, 0x75, 0x30, 0x30, (Nat.digitChar (c.toNat / 16)).toUInt8,
            (Nat.digitChar (c.toNat % 16)).toUInt8] := by
      simp only [List.flatMap_cons, highByte, lowByte]
      rfl
    rw [bytes]
    exact .cons unit .nil
  · have notLow : ¬ (0xDC00 ≤ c.toNat) := by omega
    have notHigh : ¬ (0xD800 ≤ c.toNat) := by omega
    simp [StringState.step, StringState.push, notLow, notHigh, bind, Except.bind, pure,
      Except.pure]

/-- What is written for a character stands for its bytes. -/
theorem standsFor_escapeChar (c : Char) :
    StandsFor ((escapeChar c).flatMap String.utf8EncodeChar) (String.utf8EncodeChar c) := by
  unfold escapeChar
  split
  · next h => exact standsFor_letter h
  · next h =>
      split
      · next hcontrol => exact standsFor_number hcontrol
      · next hcontrol =>
          rw [List.flatMap_singleton]
          refine standsFor_plain (Nat.not_lt.mp hcontrol) ?_ ?_ <;> rintro rfl <;> contradiction

/-- What is written for a string between its quotes stands for its bytes. -/
theorem standsFor_escaped (text : String) :
    StandsFor (utf8Bytes (String.ofList (text.toList.flatMap escapeChar))) (utf8Bytes text) := by
  rw [utf8Bytes_eq_flatMap, utf8Bytes_eq_flatMap, String.toList_ofList]
  induction text.toList with
  | nil => exact .nil
  | cons c rest ih =>
      rw [List.flatMap_cons, List.flatMap_append, List.flatMap_cons]
      exact (standsFor_escapeChar c).append ih

/-- The bytes of a text are UTF-8. -/
theorem fromUTF8?_utf8Bytes (text : String) :
    String.fromUTF8? ⟨(utf8Bytes text).toArray⟩ = some text := by
  unfold String.fromUTF8?
  rw [utf8Bytes, Array.toArray_toList, String.toUTF8_eq_toByteArray]
  exact dif_pos text.isValidUTF8

/-- A string is written as itself. -/
theorem quoted_spells (text : String) :
    ∃ s : RawString, s.Spells (utf8Bytes (quoted text)) ∧ s.decode = .ok text := by
  obtain ⟨fragments, hspells, stands⟩ := standsFor_escaped text
  refine ⟨⟨fragments, none⟩, ?_, ?_⟩
  · rw [quoted, utf8Bytes_append, utf8Bytes_append]
    exact .mk hspells
  · simp [RawString.decode, stands [], fromUTF8?_utf8Bytes, bind, Except.bind, pure,
      Except.pure]

/-! ## Numbers -/

/-- The decimal digits of a number. -/
theorem exists_digits (n : Nat) : ∃ digits, IsWhole digits ∧ ofDigits digits = n ∧
    Nat.toDigits 10 n = digits.map Nat.digitChar := by
  induction n using Nat.strongRecOn with
  | ind n ih =>
      by_cases hn : n < 10
      · refine ⟨[n], ⟨⟨by simp, by simpa using hn⟩, by simp⟩, by simp [ofDigits], ?_⟩
        rw [Nat.toDigits_of_lt_base hn, List.map_singleton]
      · obtain ⟨digits, whole, value, chars⟩ := ih (n / 10) (by omega)
        have notZero : digits ≠ [0] := by
          rintro rfl
          simp [ofDigits] at value
          omega
        refine ⟨digits ++ [n % 10], ⟨⟨by simp, fun d hd => ?_⟩, fun leading => ?_⟩, ?_, ?_⟩
        · rcases List.mem_append.mp hd with hd | hd
          · exact whole.small d hd
          · rw [List.mem_singleton.mp hd]
            omega
        · have first : digits.head? = some 0 := by
            rcases digits with _ | ⟨d, rest⟩
            · exact absurd rfl whole.nonempty
            · exact leading
          exact absurd (whole.leading first) notZero
        · rw [ofDigits, List.foldl_append, ← ofDigits, value]
          simp only [List.foldl_cons, List.foldl_nil]
          omega
        · rw [Nat.toDigits_of_base_le (by omega) (by omega), chars, List.map_append,
            List.map_singleton]

/-- The bytes of a natural number are those of its digits. -/
theorem utf8Bytes_repr {n : Nat} {digits : List Nat} (small : ∀ d ∈ digits, d < 10)
    (h : Nat.toDigits 10 n = digits.map Nat.digitChar) : utf8Bytes n.repr = digitBytes digits := by
  have digit : ∀ d < 10, String.utf8EncodeChar (Nat.digitChar d) = [digitByte d] := by decide
  rw [utf8Bytes_eq_flatMap, Nat.repr, String.toList_ofList, h, List.flatMap_map,
    List.flatMap_def, List.map_congr_left fun d hd => digit d (small d hd), ← List.flatMap_def,
    ← List.map_eq_flatMap, digitBytes]

/-- The grammar of integers, which have neither fraction nor exponent. -/
theorem Numeral.Spells.integer (negative : Bool) {digits : List Nat} (whole : IsWhole digits) :
    Numeral.Spells ⟨negative, digits, [], none⟩
      ((if negative then [0x2D] else []) ++ digitBytes digits) := by
  simpa using Numeral.Spells.mk whole .none .none

/-- An integer is written as itself. -/
theorem toString_spells (value : Int) :
    ∃ n : Numeral, n.Spells (utf8Bytes (toString value)) ∧ n.integer? = some value := by
  cases value with
  | ofNat m =>
      obtain ⟨digits, whole, rfl, chars⟩ := exists_digits m
      have bytes : utf8Bytes (toString (Int.ofNat (ofDigits digits))) = digitBytes digits :=
        utf8Bytes_repr whole.small chars
      rw [bytes]
      exact ⟨_, .integer false whole, rfl⟩
  | negSucc m =>
      obtain ⟨digits, whole, magnitude, chars⟩ := exists_digits (m + 1)
      have bytes : utf8Bytes (toString (Int.negSucc m)) = [0x2D] ++ digitBytes digits := by
        have sign : toString (Int.negSucc m) = "-" ++ (m + 1).repr := rfl
        rw [sign, utf8Bytes_append, utf8Bytes_repr whole.small chars]
        rfl
      rw [bytes]
      refine ⟨_, .integer true whole, ?_⟩
      simp [Numeral.integer?, magnitude, Int.negSucc_eq]

/-! ## Values -/

/-- A key and a content with a colon between them are a spelling of the member. -/
theorem memberText_spells {key : RawString} {content : Tree} {name text : String}
    (hkey : key.Spells (utf8Bytes name)) (hcontent : content.Spells (utf8Bytes text)) :
    SpellsMember (key, content) (utf8Bytes (name ++ ":" ++ text)) := by
  have colon : utf8Bytes (name ++ ":" ++ text) =
      [] ++ utf8Bytes name ++ [] ++ 0x3A :: utf8Bytes text := by
    have : utf8Bytes ":" = [0x3A] := rfl
    simp [utf8Bytes_append, this]
  rw [colon]
  exact .mk .nil hkey .nil hcontent

mutual

/-- The text of a value is a spelling of it. -/
theorem Value.spelledBy_text : ∀ value : Value, value.SpelledBy (utf8Bytes value.text)
  | .null => ⟨.null, .nullWord, .null⟩
  | .bool true => ⟨.bool true, .trueWord, .bool true⟩
  | .bool false => ⟨.bool false, .falseWord, .bool false⟩
  | .number value => by
      obtain ⟨n, spells, denotes⟩ := toString_spells value
      rw [Value.text]
      exact ⟨.number n, .number spells, .number denotes⟩
  | .string text => by
      obtain ⟨s, spells, denotes⟩ := quoted_spells text
      rw [Value.text]
      exact ⟨.string s, .string spells, .string denotes⟩
  | .array [] => ⟨.array [] .closed, .emptyArray .nil, .array .nil⟩
  | .array (item :: rest) => by
      obtain ⟨trees, spells, denote⟩ := itemTexts_spell (item :: rest) (by simp)
      rw [Value.text, utf8Bytes_append, utf8Bytes_append]
      exact ⟨.array trees .closed, .array spells, .array denote⟩
  | .object [] => ⟨.object [] .closed, .emptyObject .nil, .object .nil⟩
  | .object (member :: rest) => by
      obtain ⟨trees, spells, denote⟩ := memberTexts_spell (member :: rest) (by simp)
      rw [Value.text, utf8Bytes_append, utf8Bytes_append]
      exact ⟨.object trees .closed, .object spells, .object denote⟩

/-- The texts of items with commas between them are a spelling of the items. -/
theorem itemTexts_spell : ∀ items : List Value, items ≠ [] → ∃ trees,
    SpellsItems trees (utf8Bytes (",".intercalate (itemTexts items))) ∧ ItemsDenote trees items
  | [], nonempty => absurd rfl nonempty
  | [item], _ => by
      obtain ⟨tree, spells, denotes⟩ := item.spelledBy_text
      simp only [itemTexts, String.intercalate_singleton]
      exact ⟨[tree], .last spells, .cons denotes .nil⟩
  | item :: next :: rest, _ => by
      obtain ⟨tree, spells, denotes⟩ := item.spelledBy_text
      obtain ⟨trees, spell, denote⟩ := itemTexts_spell (next :: rest) (by simp)
      refine ⟨tree :: trees, ?_, .cons denotes denote⟩
      simp only [itemTexts, String.intercalate_cons_cons] at spell ⊢
      rw [utf8Bytes_append, utf8Bytes_append, List.append_assoc]
      exact .more spells spell

/-- The texts of members with commas between them are a spelling of the members. -/
theorem memberTexts_spell : ∀ members : List (String × Value), members ≠ [] → ∃ trees,
    SpellsMembers trees (utf8Bytes (",".intercalate (memberTexts members))) ∧
      MembersDenote trees members
  | [], nonempty => absurd rfl nonempty
  | [(name, value)], _ => by
      obtain ⟨key, spellsKey, denotesKey⟩ := quoted_spells name
      obtain ⟨tree, spells, denotes⟩ := value.spelledBy_text
      refine ⟨[(key, tree)], .last ?_, .cons denotesKey denotes .nil⟩
      simp only [memberTexts, String.intercalate_singleton]
      exact memberText_spells spellsKey spells
  | (name, value) :: next :: rest, _ => by
      obtain ⟨key, spellsKey, denotesKey⟩ := quoted_spells name
      obtain ⟨tree, spells, denotes⟩ := value.spelledBy_text
      obtain ⟨trees, spell, denote⟩ := memberTexts_spell (next :: rest) (by simp)
      refine ⟨(key, tree) :: trees, ?_, .cons denotesKey denotes denote⟩
      simp only [memberTexts, String.intercalate_cons_cons] at spell ⊢
      rw [utf8Bytes_append, utf8Bytes_append, List.append_assoc]
      exact .more (memberText_spells spellsKey spells) spell

end

end NwScript.Json
