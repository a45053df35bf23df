/-
# The layout of a source text

A source text is laid out: a reader who counts braces finds them balanced, and every line
as far in as it lies deep. A branch, a function and the whole text are level around what
stands in them, so it comes down to what lines say themselves. That is made of signs,
numbers, names and literals; and where no name and no literal has a brace, a tabulator or
a line feed, it has none either.
-/

import Mathlib
import NwScript.Proofs.Source.Depth
import NwScript.Proofs.Source.Program
import NwScript.Proofs.Source.Returns

namespace NwScript

open Text

section Blocks

/-- What a control structure says is calm. -/
def Clause.Calm : Clause → Prop
  | returns statement => Over IsCalm statement
  | conditional condition _ _ _ => Over IsCalm condition

/-- What a block says itself is calm. -/
structure Reading.Calm (reading : Reading) : Prop where
  statements : ∀ content ∈ reading.statements, Over IsCalm content
  call : ∀ content ∈ reading.call, Over IsCalm content
  clauses : ∀ clause ∈ reading.clauses, clause.Calm

/-- Level texts follow each other. -/
theorem additive_isLevel : Additive IsLevel := ⟨fun _ => .empty, .append⟩

/-- What is calm is level around branches that are. -/
theorem Clause.Calm.keeps {clause : Clause} (h : clause.Calm) (indent : Nat) :
    clause.Keeps IsLevel indent := by
  cases clause with
  | returns statement => exact .line h
  | conditional condition whenTrue whenFalse next =>
      have hhead : Over IsCalm ("if (" ++ condition ++ ") ") :=
        over_append.mpr ⟨over_append.mpr ⟨by decide, h⟩, by decide⟩
      have hwords : "if (" ++ condition ++ ") \x7b" = "if (" ++ condition ++ ") " ++ "\x7b" := by
        simp only [String.append_assoc]
        rfl
      cases whenFalse with
      | none =>
          intro inner hinner
          rw [hwords]
          exact .branch hhead hinner
      | some id =>
          intro inner second hinner hsecond
          rw [hwords]
          exact .branches hhead hinner hsecond

theorem Reading.Calm.keeps {reading : Reading} (h : reading.Calm) (indent : Nat) :
    reading.Keeps IsLevel indent where
  statements content hcontent := .line (h.statements content hcontent)
  call content hcall := .line (h.call content hcall)
  clauses clause hclause := (h.clauses clause hclause).keeps indent

namespace Analysis

variable {a : Analysis} {game : Game}

/-- The outline of a block is level if what all blocks say is calm. -/
theorem isLevel_outline
    (calm : ∀ block reading, a.readBlock game block = .ok reading → reading.Calm)
    {opened : List BlockId} {indent : Nat} {id : BlockId} {pieces : List Piece}
    (h : a.outline game opened indent id = .ok pieces) : IsLevel indent (textOf pieces) := by
  induction opened, indent, id using outline.induct a generalizing pieces with
  | case1 opened indent id reference found =>
      rw [outline_of_error found] at h
      cases h
  | case2 opened indent id block found mem =>
      rw [outline_of_mem found mem] at h
      cases h
      exact .empty
  | case3 opened indent id block found fresh ih =>
      rw [outline_of_not_mem found fresh] at h
      obtain ⟨reading, hreading, hwrite⟩ := bind_eq_ok_iff.mp h
      exact ((calm block reading hreading).keeps indent).write additive_isLevel
        (fun k child inner => ih k child) hwrite

/-- A return is calm. -/
theorem calm_returnText {block : Block} {control : ControlStructure} {statement : String}
    (h : a.returnText block control = .ok statement) : Over IsCalm statement := by
  obtain ⟨value, _, rfl⟩ := returnText_eq_ok_iff.mp h
  refine (over_returnStatement value).mono fun c hc => isCalm_of_isInk c ?_
  obtain hname | rfl | rfl := hc
  · exact isInk_of_isNameChar hname
  · decide
  · decide

/-- What a control structure says is calm. -/
theorem calm_readClause {block : Block} {control : ControlStructure} {clause : Clause}
    (h : a.readClause block control = .ok (some clause)) : clause.Calm := by
  unfold readClause at h
  split at h
  · obtain ⟨statement, hstatement, heq⟩ := bind_eq_ok_iff.mp h
    cases heq
    exact calm_returnText hstatement
  · obtain ⟨condition, _, heq⟩ := bind_eq_ok_iff.mp h
    cases heq
    exact (ink_variableName condition).mono isCalm_of_isInk
  · cases h

section Names

variable (names : a.NamesOver game IsCalm)

include names

/-- A call is calm if names are. -/
theorem calm_readCall {block : Block} {call : String}
    (h : a.readCall block = .ok (some call)) : Over IsCalm call := by
  obtain ⟨instr, callee, ids, arguments, hcallee, harguments, rfl⟩ := exists_of_readCall h
  have hname := names.hasName isCalm_of_isInk (hasName_of_targetName hcallee)
  have hink := ((ink_argumentNames ids).of_ok harguments).mono isCalm_of_isInk
  simp only [over_append, and_assoc]
  exact ⟨hname, by decide, hink, by decide⟩

/-- What a block says is calm if names are and what it loads. -/
theorem calm_readBlock (loads : ∀ instr ∈ a.instructions, instr.LoadsOver IsCalm) {block : Block}
    {reading : Reading} (h : a.readBlock game block = .ok reading) : reading.Calm := by
  obtain ⟨texts, call, clauses, htexts, hcall, hclauses, rfl⟩ := readBlock_eq_ok_iff.mp h
  refine { statements := ?_, call := ?_, clauses := ?_ }
  · intro content hcontent
    obtain ⟨text, htext, rfl⟩ := List.mem_filterMap.mp hcontent
    obtain ⟨id, _, hread⟩ := exists_of_mapM_eq_ok htexts htext
    obtain ⟨instr, hinstr, hstatement⟩ := bind_eq_ok_iff.mp hread
    split at hstatement
    · cases hstatement
    · next form hform =>
        obtain ⟨line, hline, heq⟩ := map_eq_ok_iff.mp hstatement
        cases heq
        have hloads := loads instr (mem_of_instructionAt (Outcome.ofResolved_eq_ok_iff.mp hinstr))
        exact (over_statementText names isCalm_of_isInk hform hloads).of_ok hline
  · intro content hcontent
    cases hcontent
    exact calm_readCall names hcall
  · intro clause hclause
    obtain ⟨found, hfound, rfl⟩ := List.mem_filterMap.mp hclause
    obtain ⟨control, _, hread⟩ := exists_of_mapM_eq_ok hclauses hfound
    exact calm_readClause hread

/-- A signature is calm if names are. -/
theorem calm_signature {sub : SubRoutine} (hsub : sub ∈ a.subRoutines) {signature : String}
    (h : a.signature game true sub = .ok signature) : Over IsCalm signature := by
  obtain ⟨label, hlabel, hafter⟩ := bind_eq_ok_iff.mp h
  obtain ⟨result, hresult, hrest⟩ := bind_eq_ok_iff.mp hafter
  obtain ⟨params, hparams, heq⟩ := bind_eq_ok_iff.mp hrest
  cases heq
  have hname : a.HasName (label.getD (sub.nameAt sub.address)) := by
    cases label with
    | none => exact hasName_nameAt hsub sub.address
    | some given =>
        obtain ⟨entry, _, hentry⟩ := bind_eq_ok_iff.mp hlabel
        exact hasName_of_entryLabel? hentry
  have htype : Over IsCalm result := by
    unfold returnTypeName at hresult
    split at hresult
    · cases hresult
      decide
    · obtain ⟨var, _, heq⟩ := bind_eq_ok_iff.mp hresult
      cases heq
      exact names.typeName isCalm_of_isInk var.type
  have hlist : Over IsCalm (", ".intercalate params) := by
    refine over_intercalate (by decide) fun text htext => ?_
    obtain ⟨param, _, hparam⟩ := exists_of_mapM_eq_ok hparams htext
    obtain ⟨var, _, heq⟩ := bind_eq_ok_iff.mp hparam
    cases heq
    exact names.typedName isCalm_of_isInk var
  simp only [over_append, and_assoc]
  exact ⟨htype, by decide, names.hasName isCalm_of_isInk hname, by decide, hlist, by decide⟩

end Names

end Analysis

end Blocks

section Programs

/-- If a computation comes to its end, the text that it has put out is level. -/
def Transcript.IsLevel {α : Type} (depth : Nat) (t : Transcript Piece α) : Prop :=
  ∀ value, t.result = .ok value → NwScript.IsLevel depth (textOf t.outputs)

namespace Transcript.IsLevel

variable {α β : Type} {depth : Nat}

theorem liftM (outcome : Outcome α) :
    (liftM outcome : Transcript Piece α).IsLevel depth :=
  fun _ _ => .empty

theorem write {content : String} (h : NwScript.IsLevel depth content) :
    (Transcript.write (.text content)).IsLevel depth := by
  intro _ _
  rw [outputs_write, textOf_text]
  exact h

theorem bind {first : Transcript Piece α} {next : α → Transcript Piece β}
    (hfirst : first.IsLevel depth)
    (hnext : ∀ value, first.result = .ok value → (next value).IsLevel depth) :
    (first >>= next).IsLevel depth := by
  intro last hlast
  rw [result_bind] at hlast
  obtain ⟨value, hvalue, hrest⟩ := bind_eq_ok_iff.mp hlast
  rw [outputs_bind_of_ok hvalue, textOf_append]
  exact (hfirst value hvalue).append (hnext value hvalue last hrest)

theorem forM {f : α → Transcript Piece Unit} {l : List α} (h : ∀ x ∈ l, (f x).IsLevel depth) :
    (l.forM f).IsLevel depth := by
  induction l with
  | nil => exact fun _ _ => .empty
  | cons x rest ih =>
      rw [List.forall_mem_cons] at h
      exact bind h.1 fun _ _ => ih h.2

end Transcript.IsLevel

namespace Analysis

variable {a : Analysis} {game : Game}

/-- A function is written as an empty line and its body between two others. -/
theorem functionText_eq (signature body : String) :
    "\n" ++ signature ++ " \x7b\n" ++ body ++ "\x7d\n" = SourceLine.text ⟨0, ""⟩ ++
      (SourceLine.text ⟨0, signature ++ " " ++ "\x7b"⟩ ++ body ++ SourceLine.text ⟨0, "\x7d"⟩) := by
  have htabs : Text.tabs 0 = "" := rfl
  have hwords : " \x7b\n" = " " ++ "\x7b" ++ "\n" := rfl
  have hend : "\x7d\n" = "\x7d" ++ "\n" := rfl
  simp only [SourceLine.text, htabs, hwords, hend, String.empty_append, String.append_assoc]

section Names

variable (names : a.NamesOver game IsCalm)
  (loads : ∀ instr ∈ a.instructions, instr.LoadsOver IsCalm)

include names

/-- A global variable is declared on a line. -/
theorem isLevel_globalText {id : VarId} {text : String} (h : a.globalText game id = .ok text) :
    IsLevel 0 text := by
  obtain ⟨var, _, heq⟩ := bind_eq_ok_iff.mp h
  cases heq
  have hline : var.typedName game ++ ";\n" =
      SourceLine.text ⟨0, var.typedName game ++ ";"⟩ := by
    have hwords : ";\n" = ";" ++ "\n" := rfl
    rw [SourceLine.text, hwords, ← String.append_assoc]
    exact congrArg (· ++ "\n") String.empty_append.symm
  rw [hline]
  exact .line (over_append.mpr ⟨names.typedName isCalm_of_isInk var, by decide⟩)

include loads

/-- The body of a function is level one step in. -/
theorem isLevel_functionBody (sub : SubRoutine) : (a.functionBody game sub).IsLevel 1 := by
  intro _ h
  cases hblocks : sub.blocks with
  | nil =>
      rw [functionBody, hblocks]
      exact .empty
  | cons entry rest =>
      have first : sub.blocks.head? = some entry := by rw [hblocks]; rfl
      exact isLevel_outline (fun _ _ => calm_readBlock names loads)
        (outline_of_functionBody first h)

/-- A function is level around its body. -/
theorem isLevel_printFunction {sub : SubRoutine} (hsub : sub ∈ a.subRoutines) :
    (a.printFunction game sub).IsLevel 0 := by
  intro _ h
  obtain ⟨signature, hsignature, hbody, heq⟩ :=
    exists_of_pieces_printFunction (Transcript.pieces_of_ok h)
  have hcalm : Over IsCalm (signature ++ " ") :=
    over_append.mpr ⟨calm_signature names hsub hsignature, by decide⟩
  rw [heq, textOf_function, functionText_eq]
  exact (IsLevel.line (by decide)).append
    (.branch hcalm (isLevel_functionBody names loads sub () hbody))

/-- So is the whole program. -/
theorem isLevel_printProgram : (a.printProgram game).IsLevel 0 := by
  have hhead : IsLevel 0 "// Decompiled using ncsdis\n\n" :=
    (IsLevel.line (by decide : Over IsCalm "// Decompiled using ncsdis")).append
      (IsLevel.line (by decide : Over IsCalm ""))
  refine .bind (.write hhead) fun _ _ => .bind (.forM fun id _ => ?_) fun _ _ => .forM ?_
  · exact .bind (.liftM _) fun text htext =>
      .write (isLevel_globalText names (Outcome.ofResolved_eq_ok_iff.mp htext))
  · exact fun sub hsub => isLevel_printFunction names loads (Array.mem_toList_iff.mp hsub)

end Names

/-- Where no name and no text that is loaded has a brace, a tabulator or a line feed, the
source text of a script is laid out, if there is one: its braces are balanced, and each
line stands in as far as it lies deep between them. -/
theorem source_laidOut (a : Analysis) (game : Game) (names : a.NamesOver game IsCalm)
    (loads : ∀ instr ∈ a.instructions, instr.LoadsOver IsCalm) {text : String}
    (printed : (a.printSource game).text = .ok text) : LaidOut text := by
  obtain ⟨hprogram, rfl⟩ := text_printSource_eq_ok printed
  rw [← textOf_eq_join]
  exact (isLevel_printProgram names loads () hprogram).laidOut

/-- A script whose entry goes on with a constant or with a call. -/
def twoBranches : Analysis where
  instructions := #[
    { address := 13, opcode := .rsAdd, operandType := .int, operands := [⟨0⟩]
      block := some ⟨0⟩ },
    { address := 15, opcode := .const, operandType := .string, bytes := [0, 1, 0x61]
      operands := [⟨1⟩], block := some ⟨1⟩ },
    { address := 20, opcode := .action, args := [0, 0], operands := [⟨2⟩], block := some ⟨2⟩ }]
  blocks := #[
    { address := 13, instructions := [⟨0⟩], subRoutine := ⟨0⟩
      controls := [{ kind := .ifCond, ifTrue := some ⟨1⟩, ifElse := some ⟨2⟩ }] },
    { address := 15, instructions := [⟨1⟩], subRoutine := ⟨0⟩ },
    { address := 20, instructions := [⟨2⟩], subRoutine := ⟨0⟩ }]
  subRoutines := #[{ address := 13, blocks := [⟨0⟩, ⟨1⟩, ⟨2⟩], name := some "main" }]
  vars := #[{ id := 1, type := .int }, { id := 2, type := .string }, { id := 3, type := .int }]
  hasStackAnalysis := true
  hasControlFlow := true

/-- The source text of the script with two branches. -/
def twoBranchesText : String :=
  String.join <| List.map SourceLine.text [
    ⟨0, "// Decompiled using ncsdis"⟩,
    ⟨0, ""⟩,
    ⟨0, ""⟩,
    ⟨0, "void main() \x7b"⟩,
    ⟨1, "int var_1 = 0;"⟩,
    ⟨1, "if (var_1) \x7b"⟩,
    ⟨2, "string var_2 = \"a\";"⟩,
    ⟨1, "\x7d else \x7b"⟩,
    ⟨2, "int var_3 = Random();"⟩,
    ⟨1, "\x7d"⟩,
    ⟨0, "\x7d"⟩]

/-- It is laid out. -/
theorem source_laidOut_twoBranches :
    (twoBranches.printSource { functions := ["Random"] }).text = .ok twoBranchesText ∧
      LaidOut twoBranchesText := by
  have printed : (twoBranches.printSource { functions := ["Random"] }).text =
      .ok twoBranchesText := by cbv
  have names : twoBranches.NamesOver { functions := ["Random"] } IsCalm :=
    { subRoutines := by decide
      functions := List.forall_mem_singleton.mpr (by decide)
      engineTypes := fun _ hmem => absurd hmem List.not_mem_nil }
  have constant : ∀ payload, payload? [0, 1, 0x61] = some payload →
      Over IsCalm (decodeLossy payload) := by
    intro payload hpayload
    have hletter : payload? [0, 1, 0x61] = some [0x61] := by cbv
    cases hletter.symm.trans hpayload
    decide
  have loads : ∀ instr ∈ twoBranches.instructions, instr.LoadsOver IsCalm := by
    intro instr hinstr
    simp only [twoBranches, List.mem_toArray, List.mem_cons, List.not_mem_nil, or_false] at hinstr
    obtain rfl | rfl | rfl := hinstr
    · intro hconst
      cases hconst
    · exact fun _ _ => constant
    · intro hconst
      cases hconst
  exact ⟨printed, source_laidOut _ _ names loads printed⟩

end Analysis

end Programs

end NwScript
