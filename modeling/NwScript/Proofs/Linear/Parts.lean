/-
# The parts of a linear form

A script has four linear forms, a listing and an assembly, each with stack boxes or
without. They are one sequence of parts that is written in four ways: a head, and for
each instruction its label, the box of its stack, its line, and the rule behind it
where the flow ends. The style decides how a part is written, not which parts there
are; and to leave the stacks out is to leave the boxes out.

What an instruction gives is said by `Entry.Shows`, field by field and without the
computation that finds it. The computation orders the siblings of a variable by their
place in the script, and the row of a stack slot by their ids; the two orders need not
agree, so the row is held to be ascending and to have the same ids.
-/

import NwScript.Proofs.Lines

namespace NwScript

section Parts

/-- A part of a linear form. -/
inductive LinearPart
  /-- What stands before the first instruction: how long the script is, and what the engine types
  of the game are called. -/
  | head (size : UInt64) (instructions : Nat) (types : List (Nat × Option String))
  | label (name : String) (signature : Option String)
  | box (rows : List StackRow)
  | line (address : UInt32) (bytes text : String)
  | separator
  deriving DecidableEq

namespace LinearPart

/-- The line of an engine type, if it has a name. -/
def typeLine : Nat × Option String → String
  | (slot, some name) => "; E" ++ toString slot ++ ": " ++ name ++ "\n"
  | (_, none) => ""

/-- The line of a stack slot. -/
def rowLine (row : StackRow) : String :=
  "; | " ++ Text.padLeft 4 (toString row.slot) ++ " - " ++ Text.padLeft 6 (toString row.id) ++
    ": " ++ Text.padRight 8 row.typeName ++ " (" ++ Text.hex32 row.creator ++ ")" ++
    if row.siblings = [] then ""
    else " (" ++ ",".intercalate (row.siblings.map toString) ++ ")"

/-- The lines of a box: one that tells how many slots there are, one for each slot, and one that
closes the box. -/
def boxLines (rows : List StackRow) : List String :=
  ["; .--- Stack: " ++ Text.padLeft 4 (toString rows.length) ++ " ---"] ++ rows.map rowLine ++
    ["; '--- ---------- ---"]

/-- How a part is written in a style. -/
def text (style : LinearStyle) : LinearPart → String
  | head size instructions types =>
      "; " ++ toString size ++ " bytes, " ++ toString instructions ++ " instructions\n\n" ++
        if types = [] then ""
        else "; Engine types:\n" ++ String.join (types.map typeLine) ++ "\n"
  | label name none => name ++ ":\n"
  | label name (some signature) => name ++ ": ; " ++ signature ++ "\n"
  | box rows =>
      String.join ((boxLines rows).map fun line =>
        match style with
        | .listing => Text.spaces 36 ++ line ++ "\n"
        | .assembly => line ++ "\n")
  | line address bytes text =>
      match style with
      | .listing =>
          "  " ++ Text.hex32 address ++ " " ++ Text.padRight 26 bytes ++ " " ++ text ++ "\n"
      | .assembly => "  " ++ text ++ "\n"
  | separator =>
      match style with
      | .listing => "  -------- -------------------------- ---\n"
      | .assembly => "\n"

/-- Parts that are written one after the other. -/
def joined (style : LinearStyle) (parts : List LinearPart) : String :=
  String.join (parts.map (text style))

/-- Whether a part is the box of a stack. -/
def isBox : LinearPart → Bool
  | box _ => true
  | _ => false

/-- The parts without the boxes. -/
def withoutBoxes (parts : List LinearPart) : List LinearPart :=
  parts.filter fun part => !part.isBox

@[simp]
theorem joined_nil (style : LinearStyle) : joined style [] = "" := rfl

@[simp]
theorem joined_cons (style : LinearStyle) (part : LinearPart) (rest : List LinearPart) :
    joined style (part :: rest) = part.text style ++ joined style rest :=
  String.join_cons

/-- What is written of two sequences of parts stands one after the other. -/
@[simp]
theorem joined_append (style : LinearStyle) (first second : List LinearPart) :
    joined style (first ++ second) = joined style first ++ joined style second := by
  simp [joined]

/-- What is written of groups of parts is what is written of each group. -/
theorem joined_flatMap (style : LinearStyle) {α : Type} (parts : α → List LinearPart)
    (l : List α) :
    joined style (l.flatMap parts) = String.join (l.map fun x => joined style (parts x)) :=
  join_map_flatMap (text style) parts l

/-- To leave out boxes of groups of parts is to leave them out of each group. -/
theorem withoutBoxes_flatMap {α : Type} (parts : α → List LinearPart) (l : List α) :
    withoutBoxes (l.flatMap parts) = l.flatMap fun x => withoutBoxes (parts x) :=
  List.filter_flatMap

/-- There is no second box to leave out. -/
theorem withoutBoxes_withoutBoxes (parts : List LinearPart) :
    withoutBoxes (withoutBoxes parts) = withoutBoxes parts := by
  simp [withoutBoxes]

end LinearPart

/-- The lines of a box are the rows of the stack between the lines that open and close it. -/
theorem stackBoxLines_eq_boxLines (rows : List StackRow) :
    stackBoxLines rows = LinearPart.boxLines rows := by
  have hrow : StackRow.text = LinearPart.rowLine := by
    funext row
    exact congrArg (_ ++ ·) (if_congr List.isEmpty_iff rfl rfl)
  rw [stackBoxLines, LinearPart.boxLines, hrow, List.singleton_append, List.cons_append]

namespace Entry

/-- The parts of an entry, in the order in which they are written. -/
def parts (entry : Entry) : List LinearPart :=
  (entry.label.map fun name => .label name entry.signature).toList ++
    (entry.stack.map LinearPart.box).toList ++
    [.line entry.address entry.bytes entry.text] ++
    if entry.endsFlow then [.separator] else []

/-- An entry without its stack. -/
def withoutStack (entry : Entry) : Entry := { entry with stack := none }

/-- What is written of an entry is what is written of its parts. -/
theorem layout_eq_joined (style : LinearStyle) (entry : Entry) :
    entry.layout style = LinearPart.joined style entry.parts := by
  obtain ⟨label, signature, stack, address, bytes, text, endsFlow⟩ := entry
  have hlabel : labelText ⟨label, signature, stack, address, bytes, text, endsFlow⟩ =
      LinearPart.joined style (label.map fun name => .label name signature).toList := by
    cases label <;> cases signature <;> simp [labelText, LinearPart.text]
  have hstack : stackText style ⟨label, signature, stack, address, bytes, text, endsFlow⟩ =
      LinearPart.joined style (stack.map LinearPart.box).toList := by
    cases stack <;> cases style <;>
      simp [stackText, stackBoxLines_eq_boxLines, LinearPart.text, LinearStyle.boxIndent,
        Text.spaces]
  have hline : lineText style ⟨label, signature, stack, address, bytes, text, endsFlow⟩ =
      LinearPart.joined style [.line address bytes text] := by
    cases style <;> simp [lineText, LinearPart.text]
  have hend : flowEndText style ⟨label, signature, stack, address, bytes, text, endsFlow⟩ =
      LinearPart.joined style (if endsFlow then [.separator] else []) := by
    cases endsFlow <;> cases style <;> simp [flowEndText, LinearPart.text, LinearStyle.flowEnd]
  rw [layout, hlabel, hstack, hline, hend, parts, LinearPart.joined_append,
    LinearPart.joined_append, LinearPart.joined_append]

/-- The stack of an entry is in its box and nowhere else. -/
theorem parts_withoutStack (entry : Entry) :
    entry.withoutStack.parts = LinearPart.withoutBoxes entry.parts := by
  obtain ⟨label, signature, stack, address, bytes, text, endsFlow⟩ := entry
  cases label <;> cases stack <;> cases endsFlow <;> rfl

end Entry

end Parts

section Shows

variable {a : Analysis} {game : Game}

/-- What a row says of the variable in a stack slot. -/
structure StackRow.Shows (a : Analysis) (game : Game) (slot : Nat) (var : Variable)
    (row : StackRow) : Prop where
  slot : row.slot = slot
  id : row.id = var.id
  typeName : row.typeName = Text.lowerCase (var.type.name game)
  creator :
    match var.creator with
    | some maker => ∃ instr, a.instructionAt maker = .ok instr ∧ row.creator = instr.address
    | none => row.creator = 0
  /-- All siblings are there, in the order of their ids. -/
  siblings : ∃ vars, var.siblings.toList.mapM a.variableAt = .ok vars ∧
    row.siblings.Perm (vars.map Variable.id)
  ascending : row.siblings.Pairwise (· ≤ ·)

/-- What an entry with a stack says of an instruction. -/
structure Entry.Shows (a : Analysis) (game : Game) (instr : Instruction) (entry : Entry) :
    Prop where
  label : a.label? instr = .ok entry.label
  signature : a.signatureBeside? game instr = .ok entry.signature
  /-- There is a row for each slot, bottom first. -/
  stack : ∃ rows, entry.stack = some rows ∧
    List.Forall₂ (fun (id, slot) row =>
      ∃ var, a.variableAt id = .ok var ∧ row.Shows a game slot var) instr.stack.zipIdx rows
  address : entry.address = instr.address
  bytes : entry.bytes = instr.bytesText
  text : a.instructionText game instr = .ok entry.text
  endsFlow : entry.endsFlow ↔ instr.follower = none

/-- The ids of siblings are brought into ascending order. -/
theorem pairwise_mergeSort_ids (ids : List UInt32) :
    (ids.mergeSort fun x y => x ≤ y).Pairwise (· ≤ ·) := by
  have hsorted := @List.pairwise_mergeSort _ (fun x y : UInt32 => decide (x ≤ y))
    (fun x y z hxy hyz => by
      simp only [decide_eq_true_eq] at hxy hyz ⊢
      exact UInt32.le_trans hxy hyz)
    (fun x y => by
      simp only [Bool.or_eq_true, decide_eq_true_eq]
      exact UInt32.le_total x y) ids
  simpa only [decide_eq_true_eq] using hsorted

/-- A row says what it has to say of its variable. -/
theorem shows_stackRow {slot : Nat} {id : VarId} {row : StackRow}
    (h : a.stackRow game slot id = .ok row) :
    ∃ var, a.variableAt id = .ok var ∧ row.Shows a game slot var := by
  obtain ⟨var, hvar, hrest⟩ := bind_eq_ok_iff.mp h
  obtain ⟨ids, hids, hrest⟩ := bind_eq_ok_iff.mp hrest
  have hvars : (var.siblings.toList.mapM fun s => Variable.id <$> a.variableAt s) = .ok ids := by
    simpa only [map_eq_pure_bind] using hids
  rw [mapM_map_comm] at hvars
  obtain ⟨vars, hfound, rfl⟩ := map_eq_ok_iff.mp hvars
  have hsiblings := List.mergeSort_perm (vars.map Variable.id) fun x y => x ≤ y
  have hascending := pairwise_mergeSort_ids (vars.map Variable.id)
  refine ⟨var, hvar, ?_⟩
  cases hcreator : var.creator with
  | none =>
      rw [hcreator] at hrest
      cases hrest
      exact ⟨rfl, rfl, rfl, hcreator ▸ rfl, ⟨vars, hfound, hsiblings⟩, hascending⟩
  | some maker =>
      rw [hcreator] at hrest
      obtain ⟨instr, hinstr, hrow⟩ := bind_eq_ok_iff.mp hrest
      cases hrow
      exact ⟨rfl, rfl, rfl, hcreator ▸ ⟨instr, hinstr, rfl⟩, ⟨vars, hfound, hsiblings⟩, hascending⟩

/-- An entry with its stack says what it has to say of its instruction. -/
theorem shows_entry {instr : Instruction} {entry : Entry}
    (h : a.entry game true instr = .ok entry) : entry.Shows a game instr := by
  obtain ⟨label, hlabel, hrest⟩ := bind_eq_ok_iff.mp h
  obtain ⟨signature, hsignature, hrest⟩ := bind_eq_ok_iff.mp hrest
  obtain ⟨stack, hstack, hrest⟩ := bind_eq_ok_iff.mp hrest
  obtain ⟨text, htext, hentry⟩ := bind_eq_ok_iff.mp hrest
  cases hentry
  obtain ⟨rows, hrows, rfl⟩ := map_eq_ok_iff.mp hstack
  exact
    { label := hlabel
      signature := hsignature
      stack := ⟨rows, rfl, (forall₂_of_mapM_eq_ok hrows).imp fun _ _ => shows_stackRow⟩
      address := rfl
      bytes := rfl
      text := htext
      endsFlow := Option.isNone_iff_eq_none }

/-- Where there is an entry with a stack, the entry without it differs in nothing else. -/
theorem entry_without_stack {instr : Instruction} {entry : Entry}
    (h : a.entry game true instr = .ok entry) :
    a.entry game false instr = .ok entry.withoutStack := by
  obtain ⟨label, hlabel, hrest⟩ := bind_eq_ok_iff.mp h
  obtain ⟨signature, hsignature, hrest⟩ := bind_eq_ok_iff.mp hrest
  obtain ⟨stack, hstack, hrest⟩ := bind_eq_ok_iff.mp hrest
  obtain ⟨text, htext, hentry⟩ := bind_eq_ok_iff.mp hrest
  cases hentry
  simp only [Analysis.entry, hlabel, hsignature, htext, ok_bind]
  rfl

end Shows

namespace Analysis

variable {a : Analysis} {game : Game}

/-- What stands before the first instruction: the sizes of the script, and each engine type
with its name, if it has one. -/
def headPart (a : Analysis) (game : Game) : LinearPart :=
  .head a.size a.instructions.size
    ((List.range game.engineTypes.length).map fun slot => (slot, game.engineType? slot))

/-- The parts of a linear form: its head, and the parts of the entries. -/
def linearParts (a : Analysis) (game : Game) (entries : List Entry) : List LinearPart :=
  a.headPart game :: entries.flatMap Entry.parts

/-- The head is written before the first instruction. -/
theorem text_headPart (style : LinearStyle) :
    (a.headPart game).text style = a.infoText ++ game.engineTypesText := by
  have hline : game.engineTypeLine =
      LinearPart.typeLine ∘ fun slot => (slot, game.engineType? slot) := by
    funext slot
    rw [Game.engineTypeLine, Function.comp_apply]
    cases game.engineType? slot with
    | none => rfl
    | some name =>
        apply String.toList_inj.mp
        simp [slotName, LinearPart.typeLine]
  have hempty : game.engineTypes.isEmpty ↔ ((List.range game.engineTypes.length).map fun slot =>
      (slot, game.engineType? slot)) = [] := by
    simp
  simp only [headPart, LinearPart.text, infoText, Game.engineTypesText, hempty, List.map_map, hline]

/-- The parts that are written: the boxes are among them if they are asked for and the
stacks are known. -/
def shownParts (a : Analysis) (printStack : Bool) (parts : List LinearPart) : List LinearPart :=
  if printStack && a.hasStackAnalysis then parts else LinearPart.withoutBoxes parts

/-- Where the stacks are not asked for, the boxes are left out. -/
theorem shownParts_false (parts : List LinearPart) :
    a.shownParts false parts = LinearPart.withoutBoxes (a.shownParts true parts) := by
  rw [shownParts, shownParts, Bool.false_and, Bool.true_and]
  cases a.hasStackAnalysis with
  | true => rfl
  | false => exact (LinearPart.withoutBoxes_withoutBoxes parts).symm

/-- The entries of a linear form are those with stacks, or these without the stacks. -/
theorem entries_of_stacked {entries : List Entry}
    (h : a.instructions.toList.mapM (a.entry game true) = .ok entries) (printStack : Bool) :
    a.entries game printStack =
      .ok (if printStack && a.hasStackAnalysis then entries
        else entries.map Entry.withoutStack) := by
  rw [Analysis.entries]
  cases printStack && a.hasStackAnalysis with
  | true => exact h
  | false => exact mapM_eq_ok_map h fun _ _ => entry_without_stack

/-- The text of a linear form is that of its parts. -/
theorem text_printLinear_of_stacked (wf : a.WellFormed) {entries : List Entry}
    (h : a.instructions.toList.mapM (a.entry game true) = .ok entries) (style : LinearStyle)
    (printStack : Bool) :
    (a.printLinear game style printStack).text =
      .ok (LinearPart.joined style (a.shownParts printStack (a.linearParts game entries))) := by
  have hjoined (shown : List Entry) :
      String.join (a.infoText :: game.engineTypesText :: shown.map (Entry.layout style)) =
        LinearPart.joined style (a.linearParts game shown) := by
    simp only [linearParts, LinearPart.joined_cons, LinearPart.joined_flatMap, text_headPart,
      String.join_cons, ← Entry.layout_eq_joined, String.append_assoc]
  have hparts : a.linearParts game (entries.map Entry.withoutStack) =
      LinearPart.withoutBoxes (a.linearParts game entries) := by
    simp only [linearParts, List.flatMap_map, Entry.parts_withoutStack,
      ← LinearPart.withoutBoxes_flatMap]
    rfl
  rw [Transcript.text, result_printLinear wf, outputs_printLinear (entries_of_stacked h printStack),
    hjoined, shownParts]
  cases printStack && a.hasStackAnalysis with
  | true => rfl
  | false => exact congrArg (fun parts => Except.ok (LinearPart.joined style parts)) hparts

/-- The four linear forms of a script are made of the same parts: a head, and for each
instruction, in their order, what its entry shows. The style decides how each part is
written, and the boxes are left out unless they are asked for and the stacks are known; so
the form without boxes is that with them, but for the boxes. -/
theorem printLinear_eq_joined (a : Analysis) (game : Game) (accepted : a.check = .ok ()) :
    ∃ entries, List.Forall₂ (Entry.Shows a game) a.instructions.toList entries ∧
      ∀ style,
        (∀ printStack, (a.printLinear game style printStack).text =
          .ok (LinearPart.joined style
            (a.shownParts printStack (a.linearParts game entries)))) ∧
        ∃ parts, (a.printLinear game style true).text = .ok (LinearPart.joined style parts) ∧
          (a.printLinear game style false).text =
            .ok (LinearPart.joined style (LinearPart.withoutBoxes parts)) := by
  have wf := check_eq_ok_iff_wellFormed.mp accepted
  have hyields : ∀ instr ∈ a.instructions.toList,
      (a.entry game true instr).Yields fun _ => True := by
    intro instr hinstr
    exact yields_entry wf game true (wf.instructions instr (Array.mem_toList_iff.mp hinstr))
  obtain ⟨entries, hentries, _⟩ := (Ends.mapM hyields).exists_value
  have htext := text_printLinear_of_stacked wf hentries
  refine ⟨entries, (forall₂_of_mapM_eq_ok hentries).imp fun _ _ => shows_entry, ?_⟩
  intro style
  refine ⟨htext style, a.shownParts true (a.linearParts game entries), htext style true, ?_⟩
  rw [htext, shownParts_false]

/-- A value that two branches leave in one slot, before the instruction where they join. The
two producers come first in the script, the one with the higher id before the other. -/
def joinedBranches : Analysis where
  size := 23
  instructions := #[
    { address := 13, opcode := .rsAdd, operandType := .int, operands := [⟨0⟩]
      block := some ⟨0⟩, follower := some ⟨1⟩, addressType := .subRoutine },
    { address := 15, opcode := .retn, stack := [⟨2⟩, ⟨0⟩], block := some ⟨0⟩ }]
  blocks := #[{ address := 13, instructions := [⟨0⟩, ⟨1⟩], subRoutine := ⟨0⟩ }]
  subRoutines := #[
    { address := 13, blocks := [⟨0⟩], name := some "main", stackProgress := .finished }]
  vars := #[
    { id := 9, type := .int, creator := some ⟨0⟩ },
    { id := 4, type := .int },
    { id := 7, type := .int, siblings := .ofList [⟨0⟩, ⟨1⟩] }]
  hasStackAnalysis := true
  hasControlFlow := true

/-- The siblings are shown by their ids, lowest first; and without its two boxes the listing
is the one that is written without stacks. -/
theorem printLinear_joinedBranches :
    joinedBranches.check = .ok () ∧
      (∃ entries, List.Forall₂ (Entry.Shows joinedBranches {}) joinedBranches.instructions.toList
        entries) ∧
      (∃ parts, (joinedBranches.printLinear {} .listing true).text =
          .ok (LinearPart.joined .listing parts) ∧
        (joinedBranches.printLinear {} .listing false).text =
          .ok (LinearPart.joined .listing (LinearPart.withoutBoxes parts))) ∧
      (joinedBranches.stackRows {} joinedBranches.instructions[1]).map LinearPart.boxLines =
        .ok ["; .--- Stack:    2 ---",
          "; |    0 -      7: int      (00000000) (4,9)",
          "; |    1 -      9: int      (0000000D)",
          "; '--- ---------- ---"] := by
  obtain ⟨entries, hentries, hforms⟩ := printLinear_eq_joined joinedBranches {} rfl
  exact ⟨rfl, ⟨entries, hentries⟩, (hforms .listing).2, by cbv⟩

end Analysis

end NwScript
