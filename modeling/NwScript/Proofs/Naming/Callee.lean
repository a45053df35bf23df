/-
# Calls and the functions that they name

A call names the instruction that it jumps to, and a function is named by the
instruction that its subroutine begins with. If that is the same instruction and it
has a label, both have the label for a name. If it has none, each makes up a name
of its own: the call one for a jump, and the definition one for a subroutine. These
are the same only where the script gives the subroutine the very name that is made
up for the jump, so the source text calls a function that it does not define.
-/

import Mathlib
import NwScript.Proofs.Naming.MadeUp
import NwScript.Proofs.Resolution.Source
import NwScript.Source.Program

namespace NwScript

/-- The last instruction of a block calls the subroutine at a target. -/
structure Block.Calls (block : Block) (a : Analysis) (call : Instruction) (target : InstrId) :
    Prop where
  typed : .subRoutineCall ∈ block.childTypes
  last : ∃ id, block.instructions.getLast? = some id ∧ a.instructionAt id = .ok call
  branch : call.branches.head? = some target

/-- A subroutine has a first block, and that begins with an instruction. -/
def SubRoutine.BeginsWith (sub : SubRoutine) (a : Analysis) (first : InstrId) : Prop :=
  ∃ id block, sub.blocks.head? = some id ∧ a.blockAt id = .ok block ∧
    block.instructions.head? = some first

namespace Analysis

variable {a : Analysis} {game : Game}

section Names

/-- An instruction lacks a label exactly if nothing makes its address interesting. -/
theorem addressType_eq_none_iff {instr : Instruction} {label : Option String}
    (h : a.label? instr = .ok label) : label = none ↔ instr.addressType = .none := by
  unfold label? at h
  split at h
  · next htype =>
      cases h
      simp [htype]
  · next htype =>
      cases h
      simp [htype]
  · next htype =>
      cases h
      simp [htype]
  · next htype =>
      obtain ⟨found, _, hname⟩ := bind_eq_ok_iff.mp h
      cases found with
      | none =>
          cases hname
          simp [htype]
      | some id =>
          obtain ⟨sub, _, heq⟩ := bind_eq_ok_iff.mp hname
          cases heq
          simp [htype]

/-- The names that are made up for subroutines do not begin like that of a jump. -/
theorem head?_jumpTargetName (target : UInt32) :
    (jumpTargetName target).toList.head? = some 'l' := by
  rw [jumpTargetName, String.toList_append]
  rfl

/-- A subroutine has the name that is made up for a jump only if the script gives it
that name. -/
theorem nameAt_eq_jumpTargetName_iff {sub : SubRoutine} {address target : UInt32} :
    sub.nameAt address = jumpTargetName target ↔ sub.name = some (jumpTargetName target) := by
  have hnonempty : (jumpTargetName target).isEmpty = false := by
    rw [String.isEmpty_eq_false_iff]
    intro hempty
    have hhead := head?_jumpTargetName target
    rw [hempty] at hhead
    cases hhead
  constructor
  · intro h
    unfold SubRoutine.nameAt at h
    split at h
    · next name hgiven =>
        obtain ⟨given, hname, hkept⟩ := Option.bind_eq_some_iff.mp hgiven
        rw [hname, Game.eq_of_nonempty? hkept, h]
    · -- No name that is made up for the kind begins with the letter of a jump.
      exfalso
      have hhead := head?_jumpTargetName target
      rw [← h] at hhead
      cases hkind : sub.kind with
      | none =>
          rw [hkind, subRoutineAddressName, String.toList_append] at hhead
          cases hhead
      | start =>
          rw [hkind] at hhead
          exact absurd (show "_start".toList.head? = some 'l' from hhead) (by decide)
      | global =>
          rw [hkind] at hhead
          exact absurd (show "_global".toList.head? = some 'l' from hhead) (by decide)
      | storeState =>
          rw [hkind, storeStateAddressName, String.toList_append] at hhead
          cases hhead
  · intro h
    unfold SubRoutine.nameAt Game.nonempty?
    rw [h, Option.bind_some, hnonempty]
    rfl

end Names

section Calls

/-- A block that calls a subroutine goes on with the line of the call: the name of the
target and the names of the variables that are passed. -/
theorem callParts_of_calls {block : Block} {call instr : Instruction} {target : InstrId}
    (hcalls : block.Calls a call target) (htarget : a.instructionAt target = .ok instr)
    {label : Option String} (hlabel : a.label? instr = .ok label) {arguments : String}
    (harguments : a.argumentNames call.operands = .ok arguments) (indent : Nat) :
    a.callParts indent block = .ok
      (.text (Text.tabs indent ++
        (label.getD (jumpTargetName instr.address) ++ "(" ++ arguments ++ ");") ++ "\n") ::
        block.tail?.toList.map fun tail => .block tail indent) := by
  obtain ⟨id, hlast, hcall⟩ := hcalls.last
  obtain ⟨rest, hbranches⟩ := List.head?_eq_some_iff.mp hcalls.branch
  have hname : a.targetName instr = .ok (label.getD (jumpTargetName instr.address)) := by
    rw [targetName, hlabel]
    rfl
  have hfinal : a.finalCall? block =
      .ok (some (label.getD (jumpTargetName instr.address) ++ "(" ++ arguments ++ ");")) := by
    rw [finalCall?, hlast]
    dsimp only
    rw [hcall, Outcome.ofResolved_ok, ok_bind, hbranches]
    dsimp only
    rw [htarget, ok_bind, hname, Outcome.ofResolved_ok, ok_bind, harguments]
    rfl
  rw [callParts, if_pos hcalls.typed, hfinal]
  rfl

/-- A subroutine is declared by the label of the instruction that it begins with, and
by a name of its own if there is none. -/
theorem signature_of_beginsWith {sub : SubRoutine} {instr : Instruction} {first : InstrId}
    (hbegins : sub.BeginsWith a first) (hfirst : a.instructionAt first = .ok instr)
    {label : Option String} (hlabel : a.label? instr = .ok label) {result : String}
    (hresult : a.returnTypeName game sub = .ok result) {withNames : Bool} {params : List String}
    (hparams : sub.params.mapM (a.parameterText game withNames) = .ok params) :
    a.signature game withNames sub = .ok (result ++ " " ++
      label.getD (sub.nameAt sub.address) ++ "(" ++ ", ".intercalate params ++ ")") := by
  obtain ⟨id, block, hhead, hblock, hinstr⟩ := hbegins
  obtain ⟨blocks, hblocks⟩ := List.head?_eq_some_iff.mp hhead
  obtain ⟨instrs, hinstrs⟩ := List.head?_eq_some_iff.mp hinstr
  have hentry : a.entryInstruction? sub = .ok (some instr) := by
    rw [entryInstruction?, hblocks]
    dsimp only
    rw [hblock, ok_bind, firstInstruction?, hinstrs]
    dsimp only
    rw [hfirst]
    rfl
  have hlabelled : a.subRoutineLabel? sub = .ok label := by
    rw [subRoutineLabel?, hentry, ok_bind]
    exact hlabel
  rw [signature, hlabelled, ok_bind, hresult, ok_bind, hparams]
  rfl

end Calls

/-- Where a block calls the instruction that a subroutine begins with, the source text
has the line of the call and the declaration of the function. The names in them are
the same exactly if the instruction has a label, or if the script calls the subroutine
what is made up for a jump to it. -/
theorem callee_eq_name_iff (a : Analysis) (game : Game) (accepted : a.check = .ok ())
    {block : Block} (hblock : block ∈ a.blocks) {call : Instruction} {target : InstrId}
    (hcalls : block.Calls a call target) {sub : SubRoutine} (hsub : sub ∈ a.subRoutines)
    (hbegins : sub.BeginsWith a target) (withNames : Bool) :
    ∃ instr callee arguments name result params,
      a.instructionAt target = .ok instr ∧
      a.argumentNames call.operands = .ok arguments ∧
      (∀ indent, a.callParts indent block = .ok
        (.text (Text.tabs indent ++ (callee ++ "(" ++ arguments ++ ");") ++ "\n") ::
          block.tail?.toList.map fun tail => .block tail indent)) ∧
      a.returnTypeName game sub = .ok result ∧
      sub.params.mapM (a.parameterText game withNames) = .ok params ∧
      a.signature game withNames sub =
        .ok (result ++ " " ++ name ++ "(" ++ ", ".intercalate params ++ ")") ∧
      (callee = name ↔
        instr.addressType ≠ .none ∨ sub.name = some (jumpTargetName instr.address)) := by
  have wf := check_eq_ok_iff_wellFormed.mp accepted
  have hblockWf := wf.blocks block hblock
  have hsubWf := wf.subRoutines sub hsub
  obtain ⟨id, hlast, hcall⟩ := hcalls.last
  have hcallWf : call.WellFormed a :=
    (wf.instructionAt (hblockWf.instructions id (List.mem_of_getLast? hlast))).of_ok hcall
  obtain ⟨instr, hinstr, hinstrWf⟩ := (wf.instructionAt
    (hcallWf.branches target (List.mem_of_head? hcalls.branch))).exists_value
  obtain ⟨label, hlabel, _⟩ := (yields_label? wf hinstrWf).exists_value
  obtain ⟨arguments, harguments, _⟩ := (yields_argumentNames wf hcallWf.operands).exists_value
  obtain ⟨result, hresult, _⟩ := (yields_returnTypeName wf game hsubWf).exists_value
  obtain ⟨params, hparams, _⟩ := (yields_parameterTexts wf game withNames hsubWf).exists_value
  refine ⟨instr, label.getD (jumpTargetName instr.address), arguments,
    label.getD (sub.nameAt sub.address), result, params, hinstr, harguments,
    callParts_of_calls hcalls hinstr hlabel harguments, hresult, hparams,
    signature_of_beginsWith hbegins hinstr hlabel hresult hparams, ?_⟩
  cases label with
  | none =>
      have htype := (addressType_eq_none_iff hlabel).mp rfl
      rw [Option.getD_none, Option.getD_none, eq_comm, nameAt_eq_jumpTargetName_iff]
      simp [htype]
  | some name =>
      have htype : instr.addressType ≠ .none := by
        rw [Ne, ← addressType_eq_none_iff hlabel]
        exact Option.some_ne_none name
      exact iff_of_true rfl (.inl htype)

/-- An entry that calls a subroutine of which the first instruction has no label. -/
def unlabelledCallee : Analysis where
  instructions := #[
    { address := 13, opcode := .jsr, args := [8], branches := [⟨2⟩], follower := some ⟨1⟩
      block := some ⟨0⟩, addressType := .subRoutine },
    { address := 19, opcode := .retn, block := some ⟨1⟩ },
    { address := 21, opcode := .retn, block := some ⟨2⟩ }]
  blocks := #[
    { address := 13, instructions := [⟨0⟩], subRoutine := ⟨0⟩
      children := [⟨2⟩, ⟨1⟩], childTypes := [.subRoutineCall, .subRoutineTail] },
    { address := 19, instructions := [⟨1⟩], subRoutine := ⟨0⟩ },
    { address := 21, instructions := [⟨2⟩], subRoutine := ⟨1⟩ }]
  subRoutines := #[
    { address := 13, kind := .start, blocks := [⟨0⟩, ⟨1⟩], stackProgress := .finished },
    { address := 21, blocks := [⟨2⟩], stackProgress := .finished }]
  hasStackAnalysis := true
  hasControlFlow := true

/-- The first block calls the subroutine that the last block begins. -/
theorem calls_unlabelledCallee :
    unlabelledCallee.blocks[0].Calls unlabelledCallee unlabelledCallee.instructions[0] ⟨2⟩ ∧
      unlabelledCallee.subRoutines[1].BeginsWith unlabelledCallee ⟨2⟩ :=
  ⟨⟨by decide, ⟨⟨0⟩, rfl, rfl⟩, rfl⟩, ⟨2⟩, _, rfl, rfl, rfl⟩

/-- The call and the function that it leads to have one name exactly if the last block
has a label or its subroutine the name for a jump. -/
theorem callee_eq_name_unlabelledCallee :
    unlabelledCallee.check = .ok () ∧
      ∃ (callee arguments name result : String) (params : List String),
        (∀ indent, unlabelledCallee.callParts indent unlabelledCallee.blocks[0] = .ok
          [.text (Text.tabs indent ++ (callee ++ "(" ++ arguments ++ ");") ++ "\n"),
            .block ⟨1⟩ indent]) ∧
        unlabelledCallee.signature {} true unlabelledCallee.subRoutines[1] =
          .ok (result ++ " " ++ name ++ "(" ++ ", ".intercalate params ++ ")") ∧
        (callee = name ↔ unlabelledCallee.instructions[2].addressType ≠ .none ∨
          unlabelledCallee.subRoutines[1].name = some (jumpTargetName 21)) := by
  obtain ⟨_, callee, arguments, name, result, params, hinstr, _, hcall, _, _, hsignature, hiff⟩ :=
    callee_eq_name_iff unlabelledCallee {} rfl (Array.getElem_mem (by decide))
      calls_unlabelledCallee.1 (Array.getElem_mem (by decide)) calls_unlabelledCallee.2 true
  cases hinstr
  exact ⟨rfl, callee, arguments, name, result, params, hcall, hsignature, hiff⟩

/-- The source text calls a function that it does not define. -/
theorem callee_undefined_unlabelledCallee :
    unlabelledCallee.check = .ok () ∧
      unlabelledCallee.blocks[0].Calls unlabelledCallee unlabelledCallee.instructions[0] ⟨2⟩ ∧
      unlabelledCallee.subRoutines[1].BeginsWith unlabelledCallee ⟨2⟩ ∧
      unlabelledCallee.signature {} true unlabelledCallee.subRoutines[1] =
        .ok "void sub_00000015()" ∧
      (unlabelledCallee.printSource {}).text =
        .ok ("// Decompiled using ncsdis\n\n" ++
          "\nvoid _start() \x7b\n\tloc_00000015();\n\x7d\n" ++
          "\nvoid sub_00000015() \x7b\n\x7d\n") :=
  ⟨rfl, calls_unlabelledCallee.1, calls_unlabelledCallee.2, by cbv, by cbv⟩

end Analysis

end NwScript
