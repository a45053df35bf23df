/-
# The encoding that a listing shows

The line of an instruction in a listing has its address, the bytes of its encoding in a
column, and its text. Nothing closes the column: a short encoding is filled up with
spaces, but a long one reaches the end of its column or passes it, and then a single
space stands before the text as it stands between two bytes. So the bytes are read up to
the first token that is none. This is the empty token of the padding, or the mnemonic:
some mnemonics begin with hexadecimal digits, but none is two of them.
-/

import NwScript.Proofs.Instruction.Alphabet
import NwScript.Proofs.Lines
import NwScript.Proofs.Text.Digits

namespace NwScript

open Text

section Reader

/-- The bytes that stand first among some tokens, up to a token that is none. -/
def leadingBytes : List (List Char) → List UInt8
  | [] => []
  | token :: rest =>
      match hexByte? token with
      | some byte => byte :: leadingBytes rest
      | none => []

/-- What a line of a listing says of the encoding of its instruction: the address behind
two spaces, and all bytes that follow it with a single space before each. -/
def readEncoding (line : String) : Option (UInt32 × List UInt8) :=
  match List.splitOn ' ' line.toList with
  | [] :: [] :: address :: tokens => do return (← hexWord? address, leadingBytes tokens)
  | _ => none

/-- What stands in a column is followed by a space, whether or not it fills the column. -/
theorem toList_padRight_space (width : Nat) (text rest : String) :
    (padRight width text ++ " " ++ rest).toList =
      text.toList ++ ' ' :: (List.replicate (width - text.length) ' ' ++ rest.toList) := by
  have hspaces (count : Nat) : List.replicate count ' ' ++ ' ' :: rest.toList =
      ' ' :: (List.replicate count ' ' ++ rest.toList) := by
    rw [← List.singleton_append, ← List.append_assoc, ← List.replicate_succ',
      List.replicate_succ, List.cons_append]
  rw [← hspaces]
  simp [padRight, spaces]

/-- Bytes are read, and what follows them. -/
theorem leadingBytes_append (bytes : List UInt8) (rest : List (List Char)) :
    leadingBytes ((bytes.map fun byte => (hex8 byte).toList) ++ rest) =
      bytes ++ leadingBytes rest := by
  induction bytes with
  | nil => rfl
  | cons byte bytes ih => simp only [List.map_cons, List.cons_append, leadingBytes,
      hexByte?_hex8, ih]

/-- There is no space among digits. -/
theorem space_not_mem_fixedDigits (width n : Nat) : ' ' ∉ fixedDigits 16 width n := by
  intro hmem
  obtain ⟨value, hlt, heq⟩ := exists_of_mem_fixedDigits (by decide) hmem
  have hdigits : ∀ value < 16, ' ' ≠ digitChar value := by decide
  exact hdigits value hlt heq

/-- Spaces part the bytes of an encoding. -/
theorem splitOn_bytes {bytes : List UInt8} (h : bytes ≠ []) :
    List.splitOn ' ' (" ".intercalate (bytes.map hex8)).toList =
      bytes.map fun byte => (hex8 byte).toList := by
  rw [String.toList_intercalate, List.map_map]
  apply List.splitOn_intercalate
  · intro token htoken
    obtain ⟨byte, _, rfl⟩ := List.mem_map.mp htoken
    rw [Function.comp_apply, hex8, String.toList_ofList]
    exact space_not_mem_fixedDigits 2 byte.toNat
  · exact mt List.map_eq_nil_iff.mp h

/-- However wide the column is, the bytes in it end where it ends, or where the text behind
it begins, if that does not begin with a byte. -/
theorem readEncoding_column (address : UInt32) {bytes : List UInt8} (hbytes : bytes ≠ [])
    (width : Nat) {text : String} (htext : leadingBytes (List.splitOn ' ' text.toList) = []) :
    readEncoding ("  " ++ hex32 address ++ " " ++
        padRight width (" ".intercalate (bytes.map hex8)) ++ " " ++ text) =
      some (address, bytes) := by
  have hpadding (count : Nat) :
      leadingBytes (List.splitOn ' ' (List.replicate count ' ' ++ text.toList)) = [] := by
    -- In a full column the text comes at once, in any other an empty token does.
    cases count with
    | zero => exact htext
    | succ count =>
        rw [List.replicate_succ, List.cons_append, ← List.nil_append (' ' :: _),
          List.splitOn_append_cons_self_of_not_mem List.not_mem_nil]
        rfl
  have haddress : ' ' ∉ (hex32 address).toList := by
    rw [hex32, String.toList_ofList]
    exact space_not_mem_fixedDigits 8 address.toNat
  have hline : ("  " ++ hex32 address ++ " " ++
      padRight width (" ".intercalate (bytes.map hex8)) ++ " " ++ text).toList =
        [] ++ ' ' :: ([] ++ ' ' :: ((hex32 address).toList ++ ' ' ::
          (padRight width (" ".intercalate (bytes.map hex8)) ++ " " ++ text).toList)) := by
    simp
  rw [readEncoding, hline, List.splitOn_append_cons_self_of_not_mem List.not_mem_nil,
    List.splitOn_append_cons_self_of_not_mem List.not_mem_nil,
    List.splitOn_append_cons_self_of_not_mem haddress, toList_padRight_space,
    List.splitOn_append_cons_self, splitOn_bytes hbytes]
  simp only [hexWord?_hex32, leadingBytes_append, hpadding, List.append_nil]
  rfl

end Reader

section Mnemonic

/-- No mnemonic is a byte, whatever the type adds to it: the mnemonics of two letters are EQ,
GT, LT and JZ, and all others are longer. -/
theorem hexByte?_name (opcode : Opcode) (suffix : List Char) :
    hexByte? (opcode.name.toList ++ suffix) = none := by
  have hname : 2 < opcode.name.toList.length ∨
      opcode.name.toList.length = 2 ∧ hexByte? opcode.name.toList = none := by
    cases opcode <;> decide
  rcases hname with hlong | ⟨htwo, hnone⟩
  · rw [hexByte?, List.length_append, if_neg (by omega)]
  · cases suffix with
    | nil => rw [List.append_nil, hnone]
    | cons c rest => rw [hexByte?, List.length_append, htwo, if_neg (by simp)]

/-- There is no space in a mnemonic. -/
theorem space_not_mem_mnemonic (instr : Instruction) : ' ' ∉ instr.mnemonic.toList :=
  fun hmem => absurd (isNameText_mnemonic ' ' hmem) (by decide)

variable {a : Analysis} {game : Game} {instr : Instruction} {text : String}

/-- The text of an instruction is its mnemonic, with a space behind it if more follows. -/
theorem exists_tail_of_instructionText (h : a.instructionText game instr = .ok text) :
    text = instr.mnemonic ∨ ∃ rest, text.toList = instr.mnemonic.toList ++ ' ' :: rest := by
  obtain ⟨operands, _, htext⟩ := bind_eq_ok_iff.mp h
  cases htext
  split
  · exact .inl rfl
  · exact .inr ⟨_, toList_padRight_space 10 instr.mnemonic operands⟩

/-- The text of an instruction does not begin with a byte. -/
theorem leadingBytes_instructionText (h : a.instructionText game instr = .ok text) :
    leadingBytes (List.splitOn ' ' text.toList) = [] := by
  have hmnemonic : hexByte? instr.mnemonic.toList = none := by
    rw [Instruction.mnemonic, String.toList_append]
    exact hexByte?_name instr.opcode _
  obtain rfl | ⟨rest, hrest⟩ := exists_tail_of_instructionText h
  · rw [List.splitOn_eq_singleton (space_not_mem_mnemonic instr), leadingBytes, hmnemonic]
  · rw [hrest, List.splitOn_append_cons_self_of_not_mem (space_not_mem_mnemonic instr),
      leadingBytes, hmnemonic]

end Mnemonic

section Line

/-- The code of an opcode is looked up among all. -/
theorem find?_code (opcode : Opcode) :
    Opcode.all.find? (fun other => other.code = opcode.code) = some opcode := by
  cases opcode <;> rfl

/-- Opcodes have codes of their own. -/
theorem Opcode.code_injective : Function.Injective Opcode.code := by
  intro first second h
  have hfound := find?_code first
  rw [h, find?_code] at hfound
  exact (Option.some.inj hfound).symm

namespace Analysis

/-- The line of an instruction in a listing, up to its end. -/
def listingLine (a : Analysis) (game : Game) (instr : Instruction) : Resolved String := do
  let text ← a.instructionText game instr
  return "  " ++ hex32 instr.address ++ " " ++ padRight 26 instr.bytesText ++ " " ++ text

variable {a : Analysis} {game : Game} {instr : Instruction} {line : String}

/-- The encoding of an instruction is read back from its line. -/
theorem readEncoding_listingLine (h : a.listingLine game instr = .ok line) :
    readEncoding line = some (instr.address, instr.encoding) := by
  obtain ⟨text, htext, hline⟩ := bind_eq_ok_iff.mp h
  cases hline
  exact readEncoding_column instr.address (List.cons_ne_nil _ _) 26
    (leadingBytes_instructionText htext)

/-- An entry is written on the line of its instruction. -/
theorem listingLine_of_entry {withStack : Bool} {entry : Entry}
    (h : a.entry game withStack instr = .ok entry) :
    ∃ line, a.listingLine game instr = .ok line ∧ entry.lineText .listing = line ++ "\n" := by
  obtain ⟨haddress, hbytes, htext⟩ := shown_entry.of_ok h
  refine ⟨_, bind_eq_ok_iff.mpr ⟨entry.text, htext, rfl⟩, ?_⟩
  rw [Entry.lineText, haddress, hbytes]

/-- A listing has a line for each instruction, between what stands above and below it, and what
is read of the line is the address of the instruction and all bytes of its encoding, be they few
or many. So instructions with the same line, of one script or of two, have the same encoding at
the same address. -/
theorem readEncoding_printLinear (a : Analysis) (game : Game) (accepted : a.check = .ok ()) :
    (∀ printStack, ∃ entries, (a.printLinear game .listing printStack).outputs =
        a.infoText :: game.engineTypesText :: entries.map (Entry.layout .listing) ∧
      List.Forall₂ (fun instr entry => ∃ line, a.listingLine game instr = .ok line ∧
          entry.lineText .listing = line ++ "\n" ∧
          entry.layout .listing = entry.labelText ++ entry.stackText .listing ++ (line ++ "\n") ++
            entry.flowEndText .listing ∧
          readEncoding line =
            some (instr.address, instr.opcode.code :: instr.operandType.code :: instr.bytes))
        a.instructions.toList entries) ∧
    ∀ (b : Analysis) (game' : Game) (instr other : Instruction) (line : String),
      a.listingLine game instr = .ok line → b.listingLine game' other = .ok line →
        instr.address = other.address ∧ instr.opcode = other.opcode ∧
          instr.operandType.code = other.operandType.code ∧ instr.bytes = other.bytes := by
  have wf := check_eq_ok_iff_wellFormed.mp accepted
  constructor
  · intro printStack
    obtain ⟨entries, hentries, _⟩ := (yields_entries wf game printStack).exists_value
    refine ⟨entries, outputs_printLinear hentries, ?_⟩
    refine (forall₂_of_mapM_eq_ok hentries).imp fun instr entry hentry => ?_
    obtain ⟨line, hline, hwritten⟩ := listingLine_of_entry hentry
    exact ⟨line, hline, hwritten, hwritten ▸ rfl, readEncoding_listingLine hline⟩
  · intro b game' instr other line hinstr hother
    have hread := readEncoding_listingLine hinstr
    rw [readEncoding_listingLine hother, Option.some.injEq, Prod.mk.injEq] at hread
    obtain ⟨haddress, hencoding⟩ := hread
    simp only [Instruction.encoding, List.cons.injEq] at hencoding
    obtain ⟨hcode, htype, hbytes⟩ := hencoding
    exact ⟨haddress.symm, Opcode.code_injective hcode.symm, htype.symm, hbytes.symm⟩

/-- Three encodings: one is shorter than the column, one fills it and one is longer. -/
def fullColumns : Analysis where
  instructions := #[
    { address := 13, opcode := .const, operandType := .string, bytes := [0, 5, 97, 98, 99, 100, 101]
      operands := [⟨0⟩], follower := some ⟨1⟩, block := some ⟨0⟩ },
    { address := 22, opcode := .const, operandType := .string
      bytes := [0, 6, 97, 98, 99, 100, 101, 102], operands := [⟨0⟩], follower := some ⟨2⟩
      block := some ⟨0⟩ },
    { address := 32, opcode := .add, operandType := .stringString, block := some ⟨0⟩ }]
  blocks := #[{ address := 13, instructions := [⟨0⟩, ⟨1⟩, ⟨2⟩], subRoutine := ⟨0⟩ }]
  subRoutines := #[{ address := 13, blocks := [⟨0⟩] }]
  vars := #[{ id := 1, type := .string }]

/-- A single space stands behind the last byte of a long encoding, and more of them behind
that of a short one, although its mnemonic begins with digits. -/
theorem readEncoding_printLinear_fullColumns :
    fullColumns.check = .ok () ∧
      (∃ entries, (fullColumns.printLinear {} .listing false).outputs =
          fullColumns.infoText :: Game.engineTypesText {} :: entries.map (Entry.layout .listing) ∧
        List.Forall₂ (fun instr entry => ∃ line, fullColumns.listingLine {} instr = .ok line ∧
            entry.layout .listing = entry.labelText ++ entry.stackText .listing ++ (line ++ "\n") ++
              entry.flowEndText .listing)
          fullColumns.instructions.toList entries) ∧
      (fullColumns.instructions.toList.mapM (fullColumns.listingLine {})) = .ok
        ["  0000000D 04 05 00 05 61 62 63 64 65 CONSTS     \"abcde\"",
          "  00000016 04 05 00 06 61 62 63 64 65 66 CONSTS     \"abcdef\"",
          "  00000020 14 23                      ADDSS"] := by
  obtain ⟨entries, hwritten, hentries⟩ := (readEncoding_printLinear fullColumns {} rfl).1 false
  refine ⟨rfl, ⟨entries, hwritten, hentries.imp fun instr entry hentry => ?_⟩, by cbv⟩
  obtain ⟨line, hline, _, hlayout, _⟩ := hentry
  exact ⟨line, hline, hlayout⟩

end Analysis

end Line

end NwScript
