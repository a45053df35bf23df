/-
# A dump gives back its script

Every part of a script is written so that it is read back as itself, whatever
its numbers, names and references are: no range check, no default and no case is
in the way. So a script is read from every text that spells what is written for
it, with blanks and escapes wherever they may stand, and first of all from the
text that is written for it here.
-/

import Mathlib
import NwScript.Proofs.Json.Codec
import NwScript.Proofs.Json.Recognition
import NwScript.Proofs.Json.Writing
import NwScript.Proofs.Rendering

namespace NwScript.Dump

open Json (Codec Fields Value Variant)

/-! ## Names and numbers -/

theorem opcode_lawful : opcode.Lawful :=
  .named (fun x => by cases x <;> decide) (by decide +kernel)

theorem addressType_lawful : addressType.Lawful :=
  .named (fun x => by cases x <;> decide) (by decide +kernel)

theorem edgeType_lawful : edgeType.Lawful :=
  .named (fun x => by cases x <;> decide) (by decide +kernel)

theorem controlType_lawful : controlType.Lawful :=
  .named (fun x => by cases x <;> decide) (by decide +kernel)

theorem subRoutineType_lawful : subRoutineType.Lawful :=
  .named (fun x => by cases x <;> decide) (by decide +kernel)

theorem stackProgress_lawful : stackProgress.Lawful :=
  .named (fun x => by cases x <;> decide) (by decide +kernel)

theorem gameId_lawful : gameId.Lawful :=
  .named (fun x => by cases x <;> decide) (by decide +kernel)

/-- A case with a slot number is read with the number that is written for it. -/
theorem writes_slotValue {α : Type} {cases : List (Variant α)} {name : String}
    {make : UInt8 → α} (slot : UInt8)
    (found : cases.find? (fun variant => variant.name == name) =
      some (.holding name .uint8 make)) :
    Variant.Writes cases (make slot) (slotValue name slot) :=
  .holding found fun content denotes =>
    map_eq_ok_iff.mpr ⟨slot, Codec.Lawful.uint8 slot content denotes, rfl⟩

theorem operandType_lawful : operandType.Lawful :=
  .variants none fun x => by
    cases x
    case engine slot => exact writes_slotValue slot rfl
    case engineEngine slot => exact writes_slotValue slot rfl
    all_goals exact .plain rfl rfl

theorem variableType_lawful : variableType.Lawful :=
  .variants none fun x => by
    cases x
    case engine slot => exact writes_slotValue slot rfl
    all_goals exact .plain rfl rfl

theorem instrId_lawful : instrId.Lawful := .via .uint64 fun _ => rfl

theorem blockId_lawful : blockId.Lawful := .via .uint64 fun _ => rfl

theorem subId_lawful : subId.Lawful := .via .uint64 fun _ => rfl

theorem varId_lawful : varId.Lawful := .via .uint64 fun _ => rfl

theorem siblingSet_lawful : siblingSet.Lawful := .via varId_lawful.list SiblingSet.ofList_toList

/-- A reference that may be missing. -/
theorem optionalInstrId_lawful : instrId.optional.Lawful := instrId_lawful.optional fun _ => nofun

theorem optionalBlockId_lawful : blockId.optional.Lawful := blockId_lawful.optional fun _ => nofun

theorem optionalString_lawful : Codec.string.optional.Lawful :=
  Codec.Lawful.string.optional fun _ => nofun

/-! ## Records -/

theorem instruction_lawful : instruction.Lawful :=
  .record
    (.cons .uint32 <| .cons opcode_lawful <| .cons operandType_lawful <| .cons (.list .uint8) <|
      .cons (.list .int32) <| .cons varId_lawful.list <| .cons varId_lawful.list <|
      .cons instrId_lawful.list <| .cons optionalInstrId_lawful <|
      .cons optionalBlockId_lawful <| .cons addressType_lawful .nil)
    (by decide) fun _ => rfl

theorem variableCodec_lawful : variableCodec.Lawful :=
  .record
    (.cons .uint32 <| .cons variableType_lawful <| .cons optionalInstrId_lawful <|
      .cons siblingSet_lawful .nil)
    (by decide) fun _ => rfl

theorem controlStructure_lawful : controlStructure.Lawful :=
  .record
    (.cons controlType_lawful <| .cons optionalBlockId_lawful <|
      .cons optionalBlockId_lawful <| .cons optionalBlockId_lawful <|
      .cons optionalBlockId_lawful <| .cons optionalBlockId_lawful <|
      .cons optionalBlockId_lawful <| .cons optionalBlockId_lawful <|
      .cons optionalBlockId_lawful <| .cons optionalBlockId_lawful <|
      .cons optionalBlockId_lawful .nil)
    (by decide) fun _ => rfl

theorem block_lawful : block.Lawful :=
  .record
    (.cons .uint32 <| .cons instrId_lawful.list <| .cons subId_lawful <|
      .cons blockId_lawful.list <| .cons edgeType_lawful.list <|
      .cons controlStructure_lawful.list .nil)
    (by decide) fun _ => rfl

theorem subRoutine_lawful : subRoutine.Lawful :=
  .record
    (.cons .uint32 <| .cons subRoutineType_lawful <| .cons optionalString_lawful <|
      .cons blockId_lawful.list <| .cons varId_lawful.list <| .cons varId_lawful.list <|
      .cons instrId_lawful.list <| .cons stackProgress_lawful .nil)
    (by decide) fun _ => rfl

theorem analysis_lawful : analysis.Lawful :=
  .record
    (.cons .uint64 <| .cons instruction_lawful.array <| .cons block_lawful.array <|
      .cons subRoutine_lawful.array <| .cons variableCodec_lawful.array <|
      .cons varId_lawful.list <| .cons .bool <| .cons .bool .nil)
    (by decide) fun _ => rfl

theorem game_lawful : game.Lawful :=
  .record
    (.cons gameId_lawful <| .cons optionalString_lawful.list <| .cons (.list .string) .nil)
    (by decide) fun _ => rfl

/-- Every script is read from what is written for it. -/
theorem script_lawful : script.Lawful :=
  .record (.cons game_lawful <| .cons analysis_lawful .nil) (by decide) fun _ => rfl

/-! ## Texts -/

/-- The texts that are accepted are those that spell a tree in which there is a script. -/
theorem readScript_eq_ok_iff {bytes : List UInt8} {s : Script} :
    readScript bytes = .ok s ↔
      ∃ tree : Json.Tree, tree.Spells bytes ∧ script.decode tree = .ok s := by
  constructor
  · intro accepted
    rw [readScript, readDocument, Codec.decodeDocument] at accepted
    cases hread : Json.read bytes with
    | mk root trailing =>
        rw [hread] at accepted
        cases hroot : script.decode root with
        | error fault =>
            rw [hroot] at accepted
            cases accepted
        | ok found =>
            rw [hroot] at accepted
            cases trailing with
            | true => cases accepted
            | false =>
                cases accepted
                have faultless := Codec.skipFault?_of_decode_record hroot
                exact ⟨root, Json.spells_of_read hread faultless, hroot⟩
  · rintro ⟨tree, spelled, decoded⟩
    rw [readScript, readDocument, Codec.decodeDocument, Json.read_of_spells spelled, decoded]
    rfl

/-- A script is read from every spelling of what is written for it. -/
theorem readScript_of_spelledBy {s : Script} {bytes : List UInt8}
    (h : (script.encode s).SpelledBy bytes) : readScript bytes = .ok s := by
  obtain ⟨tree, spells, denotes⟩ := h
  exact readScript_eq_ok_iff.mpr ⟨tree, spells, script_lawful s tree denotes⟩

/-- A text holds a script: it is read as that script, so it is rendered as the script
is. -/
structure Holds (dump : String) (s : Script) : Prop where
  reads : readScript (Text.utf8Bytes dump) = .ok s
  presents : ∀ options, presentDump dump options = s.present options
  renders : ∀ options, (presentDump dump options).text = (s.render options).text

/-- A text from which a script is read is rendered as the script is. -/
theorem holds_of_readScript {dump : String} {s : Script}
    (reads : readScript (Text.utf8Bytes dump) = .ok s) : Holds dump s := by
  have presents (options : RenderOptions) : presentDump dump options = s.present options := by
    rw [presentDump, loadScript, reads]
    rfl
  exact ⟨reads, presents, fun options => by rw [presents, s.text_present]⟩

/-- The text that is written for a script holds it, and so does every other spelling
of what is written. -/
theorem dump_holds_script (s : Script) :
    Holds (writeScript s) s ∧
      ∀ dump, (script.encode s).SpelledBy (Text.utf8Bytes dump) → Holds dump s :=
  have spelled (dump : String) (h : (script.encode s).SpelledBy (Text.utf8Bytes dump)) :
      Holds dump s := holds_of_readScript (readScript_of_spelledBy h)
  ⟨spelled _ (script.encode s).spelledBy_text, spelled⟩

-- Every field is written, also where it holds its default.
example : writeScript { game := { functions := ["say \"hi\"\n"] } } =
    "\x7b\"game\":\x7b\"id\":\"Unknown\",\"engine_types\":[]," ++
      "\"functions\":[\"say \\\"hi\\\"\\n\"]\x7d," ++
      "\"analysis\":\x7b\"size\":0,\"instructions\":[],\"blocks\":[],\"sub_routines\":[]," ++
      "\"variables\":[],\"globals\":[],\"has_stack_analysis\":false," ++
      "\"has_control_flow\":false\x7d\x7d" := by
  cbv

end NwScript.Dump
