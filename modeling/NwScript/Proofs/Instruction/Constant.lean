/-
# What the literals of constants denote

A constant is shown by a literal, and the literal gives back what its bytes hold: a number
and an object their value in two's complement, a text its characters. Each kind of literal
is read here in its own way, as a decimal, as a name or hexadecimal digits, or between its
quotes, and the bytes are read by their place value. So the bytes past those of the literal
play no part, and with fewer bytes there is no literal.

A text of broken bytes is not given back by its literal, which shows the marks that `Lossy`
puts in their place; the bytes of a text are.
-/

import NwScript.Instruction.Constant
import NwScript.Proofs.Text.Digits
import NwScript.Proofs.Text.Quoted
import NwScript.Proofs.Text.Utf8

namespace NwScript

open Text

section Numbers

/-- The number below zero that is written as one at or past half of a modulus, and any other
number itself. -/
def twosComplement (modulus n : Nat) : Int := if 2 * n < modulus then n else n - modulus

/-- The number that bytes are in two's complement, the most significant byte first. -/
def signedNumber (bytes : List UInt8) : Int :=
  twosComplement (256 ^ bytes.length) (Nat.ofDigits 256 (bytes.map UInt8.toNat).reverse)

/-- Below its modulus a number is known by its two's complement. -/
theorem twosComplement_inj {modulus m n : Nat} (hm : m < modulus) (hn : n < modulus)
    (h : twosComplement modulus m = twosComplement modulus n) : m = n := by
  unfold twosComplement at h
  split at h <;> split at h <;> omega

/-- Bytes are the digits of their number. -/
theorem bigEndian_eq_ofDigits (bytes : List UInt8) :
    bigEndian bytes = Nat.ofDigits 256 (bytes.map UInt8.toNat).reverse := by
  induction bytes using List.reverseRecOn with
  | nil => rfl
  | append_singleton bytes b ih =>
      rw [bigEndian] at ih ⊢
      rw [List.foldl_append, ih]
      simp [Nat.ofDigits_cons, Nat.mul_comm, Nat.add_comm]

/-- Bytes are digits to the base of their number. -/
theorem lt_of_mem_digits (bytes : List UInt8) :
    ∀ digit ∈ (bytes.map UInt8.toNat).reverse, digit < 256 := by
  intro digit hdigit
  obtain ⟨b, _, rfl⟩ := List.mem_map.mp (List.mem_reverse.mp hdigit)
  exact b.toNat_lt

theorem bigEndian_lt (bytes : List UInt8) : bigEndian bytes < 256 ^ bytes.length := by
  have hlt := Nat.ofDigits_lt_base_pow_length (by decide) (lt_of_mem_digits bytes)
  rwa [← bigEndian_eq_ofDigits, List.length_reverse, List.length_map] at hlt

/-- As many bytes with the same number are the same bytes. -/
theorem bigEndian_inj {first second : List UInt8} (hlength : first.length = second.length)
    (h : bigEndian first = bigEndian second) : first = second := by
  rw [bigEndian_eq_ofDigits, bigEndian_eq_ofDigits] at h
  have hdigits := Nat.ofDigits_inj_of_len_eq (by decide) (by simpa using hlength)
    (lt_of_mem_digits first) (lt_of_mem_digits second) h
  exact List.map_injective_iff.mpr (fun _ _ => UInt8.toNat_inj.mp) (List.reverse_injective hdigits)

/-- As many bytes with the same signed number are the same bytes. -/
theorem signedNumber_inj {first second : List UInt8} (hlength : first.length = second.length)
    (h : signedNumber first = signedNumber second) : first = second := by
  simp only [signedNumber, ← bigEndian_eq_ofDigits, hlength] at h
  refine bigEndian_inj hlength (twosComplement_inj ?_ (bigEndian_lt second) h)
  exact hlength ▸ bigEndian_lt first

/-- A signed word is the two's complement of the word. -/
theorem toInt_toInt32 (word : UInt32) :
    word.toInt32.toInt = twosComplement (2 ^ 32) word.toNat :=
  BitVec.toInt_eq_toNat_cond word.toBitVec

end Numbers

section Reading

/-- The object that a literal stands for: one of two by its name, any other by the digits of its
word. -/
def objectNumber? (literal : String) : Option Int :=
  if literal = "OBJECT_SELF" then some 0
  else if literal = "OBJECT_INVALID" then some 1
  else
    match literal.toList with
    | '0' :: 'x' :: digits =>
        (hexWord? digits).map fun word => twosComplement (2 ^ 32) word.toNat
    | _ => none

/-- The literal of an object is read as its number. -/
theorem objectNumber?_objectText (word : UInt32) :
    objectNumber? (objectText word) = some (twosComplement (2 ^ 32) word.toNat) := by
  unfold objectText
  split
  · next hself => rw [hself]; rfl
  split
  · next hinvalid => rw [hinvalid]; rfl
  · have hchars : ("0x" ++ hex32 word).toList = '0' :: 'x' :: (hex32 word).toList := by
      simp
    have hname {name : String} (hname : name.toList.head? = some 'O') :
        "0x" ++ hex32 word ≠ name := by
      rintro rfl
      simp [hchars] at hname
    rw [objectNumber?, if_neg (hname rfl), if_neg (hname rfl), hchars]
    simp [hexWord?_hex32]

example : objectText 0xFFFFFFFE = "0xFFFFFFFE" ∧ objectNumber? "0xFFFFFFFE" = some (-2) := by
  decide

end Reading

section Literals

/-- How many bytes the text at the start of some bytes has, as the first two bytes say. -/
def announced : List UInt8 → Nat
  | high :: low :: _ => 256 * high.toNat + low.toNat
  | _ => 0

/-- How many bytes the literal of an instruction takes. -/
def Instruction.literalSize (instr : Instruction) : Nat :=
  match instr.operandType with
  | .string | .resource => 2 + announced instr.bytes
  | _ => 4

/-- The bytes of the text that an instruction loads. -/
def Instruction.payload (instr : Instruction) : List UInt8 :=
  (instr.bytes.drop 2).take (announced instr.bytes)

/-- What a literal denotes is what the bytes of an instruction hold. -/
inductive Instruction.Loads (instr : Instruction) (literal : String) : Prop
  | int (type : instr.operandType = .int)
      (value : literal.toInt? = some (signedNumber (instr.bytes.take 4)))
  | object (type : instr.operandType = .object)
      (value : objectNumber? literal = some (signedNumber (instr.bytes.take 4)))
  /-- What is between the quotes has a replacement for each mark of broken bytes. It is what
  was encoded if a text was. -/
  | text (type : instr.operandType = .string ∨ instr.operandType = .resource)
      (text : String) (value : unquoted? literal = some text)
      (marks : List (Option Char)) (lossy : Lossy instr.payload marks)
      (replaced : text.toList = marks.map fun mark => mark.getD '\uFFFD')
      (whole : ∀ original, instr.payload = utf8Bytes original → text = original)

theorem word?_eq (bytes : List UInt8) :
    word? bytes =
      if 4 ≤ bytes.length then some (UInt32.ofNat (bigEndian (bytes.take 4))) else none := by
  rw [word?, leading?]
  split <;> rfl

theorem payload?_eq (bytes : List UInt8) :
    payload? bytes = if 2 + announced bytes ≤ bytes.length
      then some ((bytes.drop 2).take (announced bytes)) else none := by
  match bytes with
  | [] => rfl
  | [_] => rfl
  | high :: low :: rest =>
      have hannounced : bigEndian [high, low] = announced (high :: low :: rest) := by
        simp [bigEndian, announced, Nat.mul_comm]
      have hlength : 2 + announced (high :: low :: rest) ≤ (high :: low :: rest).length ↔
          announced (high :: low :: rest) ≤ rest.length := by
        simp only [List.length_cons]
        omega
      simp only [hlength]
      rw [payload?, leading?, if_pos (by simp)]
      show leading? (bigEndian [high, low]) rest = _
      rw [hannounced]
      rfl

/-- Bytes past those of the literal are not read. -/
theorem payload?_take_append {bytes : List UInt8} (h : 2 + announced bytes ≤ bytes.length)
    (rest : List UInt8) :
    payload? (bytes.take (2 + announced bytes) ++ rest) = payload? bytes := by
  match bytes, h with
  | high :: low :: tail, h =>
      set count := announced (high :: low :: tail) with hcount
      have hcount' : announced (high :: low :: (tail.take count ++ rest)) = count := rfl
      have htail : count ≤ tail.length := by
        simp only [List.length_cons] at h
        omega
      have htake : (high :: low :: tail).take (2 + count) ++ rest =
          high :: low :: (tail.take count ++ rest) := by
        rw [Nat.add_comm]
        rfl
      rw [htake, payload?_eq, payload?_eq, hcount', ← hcount, if_pos h, if_pos]
      · simp [htail]
      · simp only [List.length_cons, List.length_append, List.length_take]
        omega

theorem word?_take_append {bytes : List UInt8} (h : 4 ≤ bytes.length) (rest : List UInt8) :
    word? (bytes.take 4 ++ rest) = word? bytes := by
  have hlength : (bytes.take 4).length = 4 := by rw [List.length_take, Nat.min_eq_left h]
  rw [word?_eq, word?_eq, if_pos h, if_pos (by rw [List.length_append]; omega),
    List.take_left' hlength]

/-- The word that is read has the signed number of its bytes. -/
theorem twosComplement_of_word? {bytes : List UInt8} {word : UInt32}
    (h : word? bytes = some word) :
    (bytes.take 4).length = 4 ∧
      twosComplement (2 ^ 32) word.toNat = signedNumber (bytes.take 4) := by
  rw [word?_eq] at h
  split at h
  · next hbytes =>
      cases h
      have hfour : (bytes.take 4).length = 4 := by rw [List.length_take, Nat.min_eq_left hbytes]
      have hlt : bigEndian (bytes.take 4) < 2 ^ 32 := by
        have := bigEndian_lt (bytes.take 4)
        rwa [hfour] at this
      refine ⟨hfour, ?_⟩
      rw [signedNumber, ← bigEndian_eq_ofDigits, UInt32.toNat_ofNat', Nat.mod_eq_of_lt hlt, hfour]
      rfl
  · cases h

/-- The text that is read has the announced bytes. -/
theorem eq_of_payload? {bytes payload : List UInt8} (h : payload? bytes = some payload) :
    payload = (bytes.drop 2).take (announced bytes) := by
  rw [payload?_eq] at h
  split at h <;> cases h
  rfl

variable {instr : Instruction} {literal : String}

/-- There is a literal if the bytes are there that it takes. -/
theorem constant?_eq_none_iff
    (h : instr.operandType ∈ [.int, .object, .string, .resource]) :
    instr.constant? = none ↔ instr.bytes.length < instr.literalSize := by
  have hword {f : UInt32 → String} :
      (word? instr.bytes).map f = none ↔ instr.bytes.length < 4 := by
    rw [word?_eq]
    split <;> simp <;> omega
  have hpayload {f : List UInt8 → String} :
      (payload? instr.bytes).map f = none ↔ instr.bytes.length < 2 + announced instr.bytes := by
    rw [payload?_eq]
    split <;> simp <;> omega
  unfold Instruction.constant? Instruction.literalSize
  cases htype : instr.operandType with
  | int => exact hword
  | object => exact hword
  | string => exact hpayload
  | resource => exact hpayload
  | _ => simp [htype] at h

/-- Bytes past those of the literal play no part in it. -/
theorem constant?_take_append (h : instr.literalSize ≤ instr.bytes.length) (rest : List UInt8) :
    ({ instr with bytes := instr.bytes.take instr.literalSize ++ rest } : Instruction).constant? =
      instr.constant? := by
  unfold Instruction.literalSize at h ⊢
  cases htype : instr.operandType <;> simp only [htype] at h <;>
    simp only [Instruction.constant?, htype, word?_take_append, payload?_take_append, h]

/-- The literal of a text is the text between quotes. -/
theorem literal_of_text (type : instr.operandType = .string ∨ instr.operandType = .resource)
    (hliteral : instr.constant? = some literal) :
    literal = "\"" ++ quote (decodeLossy instr.payload) ++ "\"" := by
  have hquoted : (payload? instr.bytes).map (fun payload =>
      "\"" ++ quote (decodeLossy payload) ++ "\"") = some literal := by
    rw [Instruction.constant?] at hliteral
    rcases type with type | type <;> rwa [type] at hliteral
  obtain ⟨payload, hpayload, rfl⟩ := Option.map_eq_some_iff.mp hquoted
  rw [eq_of_payload? hpayload]
  rfl

/-- The literal of a text denotes it. -/
theorem loads_text (type : instr.operandType = .string ∨ instr.operandType = .resource) :
    instr.Loads ("\"" ++ quote (decodeLossy instr.payload) ++ "\"") := by
  refine .text type (decodeLossy instr.payload) (unquoted?_quote _) (scanUtf8 instr.payload)
    (scanUtf8_eq_iff.mp rfl) (String.toList_ofList ..) ?_
  intro original horiginal
  rw [horiginal, decodeLossy_utf8Bytes]

/-- A literal denotes what the bytes hold. -/
theorem loads_of_constant? (h : instr.operandType ∈ [.int, .object, .string, .resource])
    (hliteral : instr.constant? = some literal) : instr.Loads literal := by
  cases htype : instr.operandType with
  | int =>
      rw [Instruction.constant?, htype] at hliteral
      obtain ⟨word, hword, rfl⟩ := Option.map_eq_some_iff.mp hliteral
      refine .int htype ?_
      rw [toInt_toInt32, (twosComplement_of_word? hword).2]
      exact Int.toInt?_repr _
  | object =>
      rw [Instruction.constant?, htype] at hliteral
      obtain ⟨word, hword, rfl⟩ := Option.map_eq_some_iff.mp hliteral
      refine .object htype ?_
      rw [objectNumber?_objectText, (twosComplement_of_word? hword).2]
  | string => exact literal_of_text (.inl htype) hliteral ▸ loads_text (.inl htype)
  | resource => exact literal_of_text (.inr htype) hliteral ▸ loads_text (.inr htype)
  | _ => simp [htype] at h

/-- What is loaded as a number is read as one. -/
theorem Instruction.Loads.value_of_int (h : instr.Loads literal)
    (type : instr.operandType = .int) :
    literal.toInt? = some (signedNumber (instr.bytes.take 4)) := by
  cases h with
  | int _ value => exact value
  | object other _ => cases type.symm.trans other
  | text other => rcases other with other | other <;> cases type.symm.trans other

/-- What is loaded as an object is read as one. -/
theorem Instruction.Loads.value_of_object (h : instr.Loads literal)
    (type : instr.operandType = .object) :
    objectNumber? literal = some (signedNumber (instr.bytes.take 4)) := by
  cases h with
  | int other _ => cases type.symm.trans other
  | object _ value => exact value
  | text other => rcases other with other | other <;> cases type.symm.trans other

/-- The bytes of a number or an object are told by its literal. -/
theorem take_eq_of_constant?_eq {other : Instruction}
    (h : instr.operandType = .int ∨ instr.operandType = .object)
    (hother : other.operandType = instr.operandType) (hliteral : instr.constant? = some literal)
    (hliteral' : other.constant? = some literal) : other.bytes.take 4 = instr.bytes.take 4 := by
  have hnumber {instr : Instruction} (h : instr.operandType = .int ∨ instr.operandType = .object)
      (hliteral : instr.constant? = some literal) :
      (instr.bytes.take 4).length = 4 ∧ instr.Loads literal := by
    refine ⟨?_, loads_of_constant? (by rcases h with h | h <;> simp [h]) hliteral⟩
    unfold Instruction.constant? at hliteral
    rcases h with h | h
    all_goals
      rw [h] at hliteral
      obtain ⟨word, hword, _⟩ := Option.map_eq_some_iff.mp hliteral
      exact (twosComplement_of_word? hword).1
  obtain ⟨hlength, hloads⟩ := hnumber h hliteral
  obtain ⟨hlength', hloads'⟩ := hnumber (hother ▸ h) hliteral'
  apply signedNumber_inj (hlength'.trans hlength.symm)
  rcases h with htype | htype
  · have hvalue := hloads.value_of_int htype
    rw [hloads'.value_of_int (hother.trans htype)] at hvalue
    exact Option.some.inj hvalue
  · have hvalue := hloads.value_of_object htype
    rw [hloads'.value_of_object (hother.trans htype)] at hvalue
    exact Option.some.inj hvalue

/-- A constant of a number, an object or a text has a literal exactly if its bytes are not fewer
than the literal takes; those past it play no part, and the literal denotes what the others
hold. So a number or an object with the same literal has the same bytes. -/
theorem constant?_loads (instr : Instruction)
    (h : instr.operandType ∈ [.int, .object, .string, .resource]) :
    (instr.constant? = none ↔ instr.bytes.length < instr.literalSize) ∧
      (instr.literalSize ≤ instr.bytes.length → ∀ rest,
        ({ instr with bytes := instr.bytes.take instr.literalSize ++ rest } :
          Instruction).constant? = instr.constant?) ∧
      (∀ literal, instr.constant? = some literal → instr.Loads literal) ∧
      ∀ (other : Instruction) (literal : String), other.operandType = instr.operandType →
        instr.operandType = .int ∨ instr.operandType = .object →
          instr.constant? = some literal → other.constant? = some literal →
            other.bytes.take 4 = instr.bytes.take 4 :=
  ⟨constant?_eq_none_iff h, constant?_take_append, fun _ => loads_of_constant? h,
    fun _ _ hother hnumber => take_eq_of_constant?_eq hnumber hother⟩

/-- A text of five bytes: a backslash and a quote, two bytes of a character of three, and a
letter. Another byte stands behind it. -/
def brokenText : Instruction where
  address := 13
  opcode := .const
  operandType := .string
  bytes := [0, 5, 0x5C, 0x22, 0xE2, 0x82, 0x61, 0]

/-- The two bytes of a character have one mark, and the last byte is not in the text. -/
theorem constant?_loads_brokenText :
    brokenText.operandType = .string ∧ brokenText.literalSize = 7 ∧
      brokenText.constant? = some "\"\\\\\\\"\uFFFDa\"" ∧
      brokenText.Loads "\"\\\\\\\"\uFFFDa\"" ∧
      ({ brokenText with bytes := brokenText.bytes.take 7 } : Instruction).constant? =
        brokenText.constant? := by
  obtain ⟨_, hpast, hloads, _⟩ := constant?_loads brokenText (by decide)
  have hliteral : brokenText.constant? = some "\"\\\\\\\"\uFFFDa\"" := by cbv
  exact ⟨rfl, rfl, hliteral, hloads _ hliteral, hpast (by decide) []⟩

end Literals

end NwScript
