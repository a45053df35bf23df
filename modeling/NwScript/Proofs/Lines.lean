/-
# The lines of listings, assemblies and source texts

A linear form gives each instruction a line, and a source text gives one to each
statement. That these are single lines, and every line feed is the end of one,
rests on the texts that stand in them: where no name has a line feed, it fails for
the constants that load a text with one, and for nothing else. Their literal shows
the line feed as it is, and its line breaks in two.
-/

import Mathlib
import NwScript.Linear.Writer
import NwScript.Proofs.Instruction.Lines
import NwScript.Proofs.Resolution.Forms
import NwScript.Proofs.Source.Moves
import NwScript.Proofs.Source.Reading
import NwScript.Source.Program

namespace NwScript

open Text

/-- A text is a line, up to its last character, with so many line feeds inside. -/
def IsLine (text : String) (inner : Nat) : Prop :=
  ∃ line, text = line ++ "\n" ∧ lineFeeds line = inner

namespace Analysis

variable {a : Analysis} {game : Game}

section Linear

/-- What a linear form puts out: its head, and what it writes of each entry. -/
theorem outputs_printLinear {style : LinearStyle} {printStack : Bool} {entries : List Entry}
    (h : a.entries game printStack = .ok entries) :
    (a.printLinear game style printStack).outputs =
      a.infoText :: game.engineTypesText :: entries.map (Entry.layout style) := by
  have hentries : (do
      let entries ← Outcome.ofResolved (a.entries game printStack)
      entries.forM fun entry => .write (entry.layout style)
      .log (.wroteLinear a.instructions.size style) : Transcript String Unit).outputs =
        entries.map (Entry.layout style) := by
    rw [Transcript.outputs_liftM_bind_of_ok (Outcome.ofResolved_eq_ok_iff.mpr h),
      Transcript.outputs_bind_of_ok (Transcript.result_forM_write _ _),
      Transcript.outputs_forM_write, Transcript.outputs_log, List.append_nil]
  rw [printLinear, Transcript.outputs_bind_of_ok (Transcript.result_write _),
    Transcript.outputs_bind_of_ok (Transcript.result_write _), Transcript.outputs_write,
    Transcript.outputs_write, ← hentries]
  split <;> rfl

/-- What the line of an entry says of an instruction: its address, its encoding and its
text. -/
structure ShownBy (a : Analysis) (game : Game) (instr : Instruction) (entry : Entry) : Prop where
  address : entry.address = instr.address
  bytes : entry.bytes = instr.bytesText
  text : a.instructionText game instr = .ok entry.text

/-- An instruction is shown by its entry. -/
theorem shown_entry {withStack : Bool} {instr : Instruction} :
    Gives (a.ShownBy game instr) (a.entry game withStack instr) := by
  rw [entry]
  apply Ends.bind Gives.any
  intro label _
  apply Ends.bind Gives.any
  intro signature _
  have htext (stack : Option (List StackRow)) : Gives (a.ShownBy game instr)
      (do
        let text ← a.instructionText game instr
        return ({
          label := label
          signature := signature
          stack := stack
          address := instr.address
          bytes := instr.bytesText
          text := text
          endsFlow := instr.follower.isNone } : Entry)) := by
    cases h : a.instructionText game instr with
    | error reference => trivial
    | ok text => exact ⟨rfl, rfl, h⟩
  split
  · exact Ends.bind Gives.any fun stack _ => htext stack
  · exact htext none

/-- The line of an entry has the line feeds of the text that its instruction loads. -/
theorem isLine_lineText (fit : a.NamesFit game) (style : LinearStyle) {withStack : Bool}
    {instr : Instruction} {entry : Entry} (h : a.entry game withStack instr = .ok entry) :
    IsLine (entry.lineText style) instr.innerFeeds := by
  obtain ⟨_, hbytes, htext⟩ := shown_entry.of_ok h
  have hfeeds := lineFeeds_instructionText fit htext
  cases style with
  | listing =>
      refine ⟨_, rfl, ?_⟩
      simp only [lineFeeds_append, lineFeeds_hex32, lineFeeds_padRight, hbytes,
        lineFeeds_bytesText, hfeeds]
      exact Nat.zero_add _
  | assembly =>
      refine ⟨_, rfl, ?_⟩
      rw [lineFeeds_append, hfeeds]
      exact Nat.zero_add _

/-- A linear form of a well-formed script has an entry for each instruction, in their
order, with a line of its own. -/
theorem lines_printLinear (wf : a.WellFormed) (fit : a.NamesFit game) (style : LinearStyle)
    (printStack : Bool) :
    ∃ entries, (a.printLinear game style printStack).outputs =
        a.infoText :: game.engineTypesText :: entries.map (Entry.layout style) ∧
      List.Forall₂ (fun instr entry => IsLine (entry.lineText style) instr.innerFeeds)
        a.instructions.toList entries := by
  obtain ⟨entries, hentries, _⟩ := (yields_entries wf game printStack).exists_value
  refine ⟨entries, outputs_printLinear hentries, ?_⟩
  exact (forall₂_of_mapM_eq_ok hentries).imp fun _ _ => isLine_lineText fit style

end Linear

section Source

/-- The statements of a block are written on lines: one for each instruction whose
opcode has a form, in their order, with the line feeds of the text that it loads. -/
def StatementLines (a : Analysis) (indent : Nat) (ids : List InstrId)
    (statements : List String) : Prop :=
  ∃ instrs, ids.mapM a.instructionAt = .ok instrs ∧
    List.Forall₂ (fun instr line => IsLine (tabs indent ++ line ++ "\n") instr.innerFeeds)
      (instrs.filter fun instr => instr.opcode.statementForm?.isSome) statements

/-- A piece with the statements of a block has them on lines. -/
def PieceLines (a : Analysis) : Piece → Prop
  | .text _ => True
  | .body id indent statements =>
      ∃ block, a.blockAt id = .ok block ∧ a.StatementLines indent block.instructions statements

/-- A statement is written on a line, whatever its indent. -/
theorem isLine_statementText (fit : a.NamesFit game) {instr : Instruction} {form : StatementForm}
    (hform : instr.opcode.statementForm? = some form) {line : String}
    (h : a.statementText game instr form = .ok line) (indent : Nat) :
    IsLine (tabs indent ++ line ++ "\n") instr.innerFeeds := by
  refine ⟨tabs indent ++ line, rfl, ?_⟩
  rw [lineFeeds_append, lineFeeds_tabs, Nat.zero_add]
  exact (lineFeeds_statementText fit hform).of_ok h

/-- Statements that are read are lines, instruction by instruction. -/
theorem statementLines_of_mapM (fit : a.NamesFit game) (indent : Nat) {ids : List InstrId}
    {texts : List (Option String)} (h : ids.mapM (a.readStatement game) = .ok texts) :
    a.StatementLines indent ids (texts.filterMap fun text => text) := by
  induction ids generalizing texts with
  | nil =>
      cases h
      exact ⟨[], rfl, .nil⟩
  | cons id rest ih =>
      rw [List.mapM_cons] at h
      obtain ⟨text, htext, hrest⟩ := bind_eq_ok_iff.mp h
      obtain ⟨texts, htexts, heq⟩ := bind_eq_ok_iff.mp hrest
      cases heq
      obtain ⟨instrs, hinstrs, hlines⟩ := ih htexts
      obtain ⟨instr, hfound, hstatement⟩ := bind_eq_ok_iff.mp htext
      refine ⟨instr :: instrs, ?_, ?_⟩
      · rw [List.mapM_cons, Outcome.ofResolved_eq_ok_iff.mp hfound, hinstrs]
        rfl
      · rw [List.filter_cons, List.filterMap_cons]
        cases hform : instr.opcode.statementForm? with
        | none =>
            rw [hform] at hstatement
            cases hstatement
            exact hlines
        | some form =>
            rw [hform] at hstatement
            obtain ⟨line, hline, rfl⟩ := map_eq_ok_iff.mp hstatement
            exact .cons (isLine_statementText fit hform hline indent) hlines

/-- The statements of a block are lines. -/
theorem statementLines_blockStatements (fit : a.NamesFit game) (indent : Nat) {block : Block}
    {statements : List String} (h : (a.blockStatements game block).result = .ok statements) :
    a.StatementLines indent block.instructions statements := by
  rw [result_blockStatements] at h
  obtain ⟨texts, htexts, rfl⟩ := map_eq_ok_iff.mp h
  exact statementLines_of_mapM fit indent htexts

/-- What a visit of a block puts out, be it complete or not, are its statements. -/
theorem puts_visit (fit : a.NamesFit game) {id : BlockId} {indent : Nat} {block : Block}
    (found : a.blockAt id = .ok block) : (a.visit game id indent block).Puts a.PieceLines := by
  rw [visit]
  refine .bind (.of_outputs_eq_nil outputs_blockStatements) ?_
  intro statements hstatements
  refine .bind (.write ⟨block, found, statementLines_blockStatements fit indent hstatements⟩) ?_
  intro _ _
  exact .of_outputs_eq_nil outputs_parts

/-- A walk that has put out lines puts out lines to its end. -/
theorem puts_run (fit : a.NamesFit game) (walk : Walk)
    (start : ∀ piece, .write piece ∈ walk.done → a.PieceLines piece) :
    (walk.run a game).Puts a.PieceLines := by
  -- What a visit adds to what was done are the pieces that it puts out.
  have hvisit {id : BlockId} {indent : Nat} {block : Block} {done : List (Action Piece)}
      (found : a.blockAt id = .ok block)
      (hdone : ∀ piece, .write piece ∈ done → a.PieceLines piece) (piece : Piece)
      (hpiece : .write piece ∈ (a.visit game id indent block).actions.reverse ++ done) :
      a.PieceLines piece := by
    rw [List.mem_append, List.mem_reverse, ← Transcript.mem_outputs_iff] at hpiece
    exact hpiece.elim (puts_visit fit found piece) (hdone piece)
  apply Walk.run_induction (fun walk => ∀ piece, .write piece ∈ walk.done → a.PieceLines piece)
    (fun t => t.Puts a.PieceLines)
  · intro walk later hdone hmoves
    cases hmoves with
    | text content rest opened done =>
        intro piece hpiece
        rw [List.mem_cons] at hpiece
        obtain heq | hpiece := hpiece
        · cases heq
          trivial
        · exact hdone piece hpiece
    | close id rest opened done => exact hdone
    | skip rest done found mem =>
        intro piece hpiece
        rw [List.mem_cons] at hpiece
        obtain heq | hpiece := hpiece
        · cases heq
        · exact hdone piece hpiece
    | enter rest done found fresh visited => exact hvisit found hdone
  · intro walk result done hdone hstops piece hpiece
    rw [Transcript.mem_outputs_iff, List.mem_reverse] at hpiece
    cases hstops with
    | finished opened done => exact hdone piece hpiece
    | lost rest opened done found => exact hdone piece hpiece
    | incomplete rest done found fresh visited => exact hvisit found hdone piece hpiece
  · exact start

/-- Whatever a source text puts out, the statements of blocks in it are lines. -/
theorem puts_printProgram (fit : a.NamesFit game) : (a.printProgram game).Puts a.PieceLines := by
  have htext (content : String) :
      (Transcript.write (.text content) : Transcript Piece Unit).Puts a.PieceLines :=
    .write trivial
  have hbody (sub : SubRoutine) : (a.functionBody game sub).Puts a.PieceLines := by
    rw [functionBody]
    split
    · exact .of_outputs_eq_nil rfl
    · exact puts_run fit _ fun piece hpiece => by cases hpiece
  have hfunction (sub : SubRoutine) : (a.printFunction game sub).Puts a.PieceLines := by
    have hwritten (signature : String) : (do
        .write (.text ("\n" ++ signature ++ " \x7b\n"))
        a.functionBody game sub
        .write (.text "\x7d\n") : Transcript Piece Unit).Puts a.PieceLines :=
      .bind (htext _) fun _ _ => .bind (hbody sub) fun _ _ => htext _
    rw [printFunction]
    split
    · exact .of_outputs_eq_nil rfl
    · exact .bind (.of_outputs_eq_nil rfl) fun signature _ => hwritten signature
  rw [printProgram]
  refine .bind (htext _) fun _ _ => .bind (.forM ?_) fun _ _ => .forM fun sub _ => hfunction sub
  intro id _
  exact .bind (.of_outputs_eq_nil rfl) fun content _ => htext content

end Source

/-- In an accepted script whose names fit on lines, the text of every instruction and
every statement have exactly the line feeds of the text that the instruction loads.
So that the line of an instruction in a listing or an assembly is one line, and a
statement in a source text is, holds for all instructions but those that load a text
with a line feed in it. -/
theorem lines_of_instructions (a : Analysis) (game : Game) (accepted : a.check = .ok ())
    (fit : a.NamesFit game) :
    (∀ instr ∈ a.instructions, ∃ text, a.instructionText game instr = .ok text ∧
        lineFeeds text = instr.innerFeeds) ∧
      (∀ style printStack, ∃ entries, (a.printLinear game style printStack).outputs =
          a.infoText :: game.engineTypesText :: entries.map (Entry.layout style) ∧
        List.Forall₂ (fun instr entry => IsLine (entry.lineText style) instr.innerFeeds)
          a.instructions.toList entries) ∧
      (∀ instr form statement, instr.opcode.statementForm? = some form →
        a.statementText game instr form = .ok statement →
          lineFeeds statement = instr.innerFeeds) ∧
      (a.printProgram game).Puts a.PieceLines ∧
      ∀ instr : Instruction, 0 < instr.innerFeeds ↔ instr.opcode = .const ∧
        (instr.operandType = .string ∨ instr.operandType = .resource) ∧
        ∃ payload, payload? instr.bytes = some payload ∧ 0x0A ∈ payload := by
  have wf := check_eq_ok_iff_wellFormed.mp accepted
  refine ⟨?_, fun style printStack => lines_printLinear wf fit style printStack, ?_,
    puts_printProgram fit, fun instr => Instruction.innerFeeds_pos_iff⟩
  · intro instr hinstr
    obtain ⟨text, htext, _⟩ :=
      (yields_instructionText wf game (wf.instructions instr hinstr)).exists_value
    exact ⟨text, htext, lineFeeds_instructionText fit htext⟩
  · intro instr form statement hform hstatement
    exact (lineFeeds_statementText fit hform).of_ok hstatement

/-- A block that loads the text of three bytes, the second of which is a line feed. -/
def brokenConstant : Analysis where
  instructions := #[
    { address := 13, opcode := .const, operandType := .string, bytes := [0, 3, 0x61, 0x0A, 0x62]
      operands := [⟨0⟩], follower := some ⟨1⟩, block := some ⟨0⟩, addressType := .subRoutine },
    { address := 20, opcode := .retn, block := some ⟨0⟩ }]
  blocks := #[{ address := 13, instructions := [⟨0⟩, ⟨1⟩], subRoutine := ⟨0⟩ }]
  subRoutines := #[{ address := 13, blocks := [⟨0⟩], stackProgress := .finished }]
  vars := #[{ id := 1, type := .string }]
  hasStackAnalysis := true
  hasControlFlow := true

/-- No name is given in the script. -/
theorem namesFit_brokenConstant : brokenConstant.NamesFit {} where
  subRoutines := by simp [brokenConstant]
  functions := by simp
  engineTypes := by simp

/-- The lines of the block have the line feeds of the text that it loads. -/
theorem lines_brokenConstant :
    brokenConstant.check = .ok () ∧ brokenConstant.NamesFit {} ∧
      (∀ instr ∈ brokenConstant.instructions, ∃ text,
        brokenConstant.instructionText {} instr = .ok text ∧
          lineFeeds text = instr.innerFeeds) ∧
      (brokenConstant.printProgram {}).Puts brokenConstant.PieceLines := by
  have hlines := lines_of_instructions brokenConstant {} rfl namesFit_brokenConstant
  exact ⟨rfl, namesFit_brokenConstant, hlines.1, hlines.2.2.2.1⟩

/-- The instruction is shown on two lines, and so is its statement. -/
theorem two_lines_brokenConstant :
    brokenConstant.check = .ok () ∧ brokenConstant.NamesFit {} ∧
      brokenConstant.instructionText {} brokenConstant.instructions[0] =
        .ok "CONSTS     \"a\nb\"" ∧
      (brokenConstant.printSource {}).text =
        .ok ("// Decompiled using ncsdis\n\n\nvoid sub_0000000D() \x7b\n" ++
          "\tstring var_1 = \"a\nb\";\n\x7d\n") :=
  ⟨rfl, namesFit_brokenConstant, by cbv, by cbv⟩

end Analysis

end NwScript
