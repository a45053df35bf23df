/-
# Reading a block

What a block says itself, made up before anything is written: its statements,
the call that it ends in, and those of its control structures that show in the
source text. A `Reading` names the blocks that go on from there but does not
look at them. Visiting a block on a walk comes to the same: it puts out the
statements of the reading and leaves its parts to be written.
-/

import NwScript.Proofs.Graph.WellFormed
import NwScript.Proofs.Transcript
import NwScript.Source.Walk

namespace NwScript

/-- A control structure that shows in the source text, with its own statement
made up and the blocks that it names. -/
inductive Clause
  | returns (statement : String)
  | conditional (condition : String) (whenTrue whenFalse next : Option BlockId)
  deriving DecidableEq

/-- All that a block says itself, before another block is looked at. -/
structure Reading where
  statements : List String
  /-- The call that the block ends in. -/
  call : Option String
  /-- The block after the call. -/
  tail : Option BlockId
  clauses : List Clause
  deriving DecidableEq

/-- The block after the call that a block ends in; a block that calls nothing
has none. -/
def Block.afterCall? (block : Block) : Option BlockId :=
  if .subRoutineCall ∈ block.childTypes then block.tail? else none

namespace Analysis

variable (a : Analysis) (game : Game)

/-- The statement of an instruction, if its opcode has a form for it. -/
def readStatement (id : InstrId) : Outcome (Option String) := do
  let instr ← Outcome.ofResolved (a.instructionAt id)
  match instr.opcode.statementForm? with
  | none => return none
  | some form => some <$> a.statementText game instr form

/-- The call that a block ends in, if one of its edges says so. -/
def readCall (block : Block) : Outcome (Option String) :=
  if .subRoutineCall ∈ block.childTypes then a.finalCall? block else pure none

/-- What a control structure of a block says, if it shows at all. -/
def readClause (block : Block) (control : ControlStructure) : Outcome (Option Clause) :=
  match control.kind with
  | .returns => do return some (.returns (← a.returnText block control))
  | .ifCond => do
      let condition ← a.conditionVariable block control
      return some (.conditional condition.name control.ifTrue control.ifElse control.ifNext)
  | _ => pure none

/-- What a block says: its statements first, then its call, then its control
structures, up to the first that cannot be made up. -/
def readBlock (block : Block) : Outcome Reading := do
  let statements ← block.instructions.mapM (a.readStatement game)
  let call ← a.readCall block
  let clauses ← block.controls.mapM (a.readClause block)
  return {
    statements := statements.filterMap fun statement => statement
    call := call
    tail := block.afterCall?
    clauses := clauses.filterMap fun clause => clause }

end Analysis

section Visits

/-- What a control structure leaves to be written, as the walk holds it. -/
def Clause.parts (indent : Nat) : Clause → List Pending
  | .returns statement => [.text (Text.tabs indent ++ statement ++ "\n")]
  | .conditional condition whenTrue whenFalse next =>
      [.text (Text.tabs indent ++ "if (" ++ condition ++ ") \x7b\n")] ++
        whenTrue.toList.map (fun id => Pending.block id (indent + 1)) ++
        [.text (Text.tabs indent ++ "\x7d")] ++
        (match whenFalse with
          | none => []
          | some id =>
              [.text " else \x7b\n", .block id (indent + 1), .text (Text.tabs indent ++ "\x7d")]) ++
        [.text "\n"] ++ next.toList.map fun id => Pending.block id indent

/-- What a block leaves to be written, as the walk holds it. -/
def Reading.parts (reading : Reading) (indent : Nat) : List Pending :=
  (reading.call.map fun call => Pending.text (Text.tabs indent ++ call ++ "\n")).toList ++
    reading.tail.toList.map (fun id => Pending.block id indent) ++
    reading.clauses.flatMap (Clause.parts indent)

variable {a : Analysis} {game : Game} {indent : Nat} {block : Block}

namespace Analysis

/-- A visit comes to the statements that a reading makes up. -/
theorem result_blockStatements :
    (a.blockStatements game block).result =
      (fun statements => statements.filterMap fun statement => statement) <$>
        block.instructions.mapM (a.readStatement game) := by
  have hstatement (id : InstrId) :
      (do a.statementOf? game (← Outcome.ofResolved (a.instructionAt id)) :
        Transcript Piece (Option String)).result = a.readStatement game id := by
    rw [Transcript.result_bind]
    apply bind_congr
    intro instr
    rw [statementOf?]
    cases instr.opcode.statementForm? with
    | none => rfl
    | some form =>
        dsimp only
        rw [Transcript.result_bind, map_eq_pure_bind]
        rfl
  rw [blockStatements, Transcript.result_bind, Transcript.result_mapM]
  simp only [hstatement]
  rfl

/-- The call and the block after it are left to be written as they are read. -/
theorem callParts_eq :
    a.callParts indent block =
      (fun call =>
        (call.map fun call => Pending.text (Text.tabs indent ++ call ++ "\n")).toList ++
          block.afterCall?.toList.map fun id => Pending.block id indent) <$>
        a.readCall block := by
  unfold callParts readCall Block.afterCall?
  by_cases hcall : EdgeType.subRoutineCall ∈ block.childTypes
  · simp only [if_pos hcall]
    exact (map_eq_pure_bind _ _).symm
  · simp only [if_neg hcall]
    rfl

/-- A control structure leaves to be written what is read of it. -/
theorem result_controlParts (control : ControlStructure) :
    (a.controlParts indent block control).result =
      (fun clause => clause.toList.flatMap (Clause.parts indent)) <$>
        a.readClause block control := by
  unfold controlParts readClause
  cases control.kind with
  | returns => cases a.returnText block control <;> rfl
  | ifCond =>
      show a.conditionalParts indent block control = _
      rw [conditionalParts]
      cases a.conditionVariable block control with
      | error failure => rfl
      | ok condition => exact congrArg Except.ok (List.append_nil _).symm
  | _ => rfl

/-- A visit comes to the parts of the reading of its block. -/
theorem result_visit (id : BlockId) :
    (a.visit game id indent block).result =
      (fun reading => reading.parts indent) <$> a.readBlock game block := by
  have hflatten (clauses : List (Option Clause)) :
      (clauses.map fun clause => clause.toList.flatMap (Clause.parts indent)).flatten =
        (clauses.filterMap fun clause => clause).flatMap (Clause.parts indent) := by
    induction clauses with
    | nil => rfl
    | cons clause rest ih =>
        cases clause with
        | none => simpa using ih
        | some clause => simpa using ih
  have hcontrols : (block.controls.mapM (a.controlParts indent block)).result =
      List.map (fun clause => clause.toList.flatMap (Clause.parts indent)) <$>
        block.controls.mapM (a.readClause block) := by
    rw [Transcript.result_mapM]
    simp only [result_controlParts]
    exact mapM_map_comm _ _ _
  unfold visit readBlock
  simp only [Transcript.result_bind, result_blockStatements, Transcript.result_write,
    Transcript.result_liftM, callParts_eq, hcontrols, Transcript.result_pure, ok_bind,
    map_eq_pure_bind, bind_assoc, pure_bind, hflatten]
  rfl

/-- A call has the name of what it jumps to, and its arguments in brackets. -/
theorem exists_of_readCall {call : String} (h : a.readCall block = .ok (some call)) :
    ∃ instr callee ids arguments, a.targetName instr = .ok callee ∧
      a.argumentNames ids = .ok arguments ∧ call = callee ++ "(" ++ arguments ++ ");" := by
  unfold readCall finalCall? at h
  split at h
  · split at h
    · cases h
    · obtain ⟨last, _, h⟩ := bind_eq_ok_iff.mp h
      split at h
      · cases h
      · obtain ⟨callee, hcallee, h⟩ := bind_eq_ok_iff.mp h
        obtain ⟨arguments, harguments, heq⟩ := bind_eq_ok_iff.mp h
        cases heq
        obtain ⟨instr, _, hname⟩ := bind_eq_ok_iff.mp (Outcome.ofResolved_eq_ok_iff.mp hcallee)
        exact ⟨instr, callee, last.operands, arguments, hname, harguments, rfl⟩
  · cases h

/-- A block that can be read is read part by part. -/
theorem readBlock_eq_ok_iff {reading : Reading} :
    a.readBlock game block = .ok reading ↔ ∃ texts call clauses,
      block.instructions.mapM (a.readStatement game) = .ok texts ∧
      a.readCall block = .ok call ∧
      block.controls.mapM (a.readClause block) = .ok clauses ∧
      reading = ⟨texts.filterMap fun text => text, call, block.afterCall?,
        clauses.filterMap fun clause => clause⟩ := by
  simp only [readBlock, bind_eq_ok_iff]
  constructor
  · rintro ⟨texts, htexts, call, hcall, clauses, hclauses, h⟩
    cases h
    exact ⟨texts, call, clauses, htexts, hcall, hclauses, rfl⟩
  · rintro ⟨texts, call, clauses, htexts, hcall, hclauses, rfl⟩
    exact ⟨texts, htexts, call, hcall, clauses, hclauses, rfl⟩

/-- Making up the statements of a block puts out nothing. -/
theorem outputs_blockStatements : (a.blockStatements game block).outputs = [] := by
  have hstatement (instr : Instruction) : (a.statementOf? game instr).outputs = [] := by
    rw [statementOf?]
    cases instr.opcode.statementForm? with
    | none => rfl
    | some form =>
        exact Transcript.outputs_bind_eq_nil rfl fun text => Transcript.outputs_pure (some text)
  apply Transcript.outputs_bind_eq_nil
  · apply Transcript.outputs_mapM_eq_nil
    intro id
    exact Transcript.outputs_bind_eq_nil rfl hstatement
  · intro statements
    rfl

/-- What follows the statements of a block is left to be written. -/
theorem outputs_parts :
    (do
      let call ← a.callParts indent block
      let controls ← block.controls.mapM (a.controlParts indent block)
      return call ++ controls.flatten : Transcript Piece (List Pending)).outputs = [] := by
  have hcontrol (control : ControlStructure) :
      (a.controlParts indent block control).outputs = [] := by
    rw [controlParts]
    cases control.kind with
    | returns => exact Transcript.outputs_bind_eq_nil rfl fun _ => rfl
    | _ => rfl
  apply Transcript.outputs_bind_eq_nil (Transcript.outputs_liftM _)
  intro parts
  apply Transcript.outputs_bind_eq_nil
  · exact Transcript.outputs_mapM_eq_nil hcontrol block.controls
  · intro controls
    rfl

/-- A visit puts out the statements of its block and nothing else. -/
theorem outputs_visit {id : BlockId} {reading : Reading}
    (h : a.readBlock game block = .ok reading) :
    (a.visit game id indent block).outputs = [.body id indent reading.statements] := by
  obtain ⟨texts, call, clauses, htexts, _, _, rfl⟩ := readBlock_eq_ok_iff.mp h
  have hresult : (a.blockStatements game block).result =
      .ok (texts.filterMap fun text => text) := by
    rw [result_blockStatements, htexts]
    rfl
  rw [visit, Transcript.outputs_bind_of_ok hresult, outputs_blockStatements,
    Transcript.outputs_bind_of_ok (Transcript.result_write _), Transcript.outputs_write,
    outputs_parts, List.nil_append, List.append_nil]

end Analysis

end Visits

section Targets

/-- The blocks that a control structure goes on with. Only a conditional shows
any of those that it names. -/
def ControlStructure.targets (control : ControlStructure) : List BlockId :=
  if control.kind = .ifCond then
    control.ifTrue.toList ++ control.ifElse.toList ++ control.ifNext.toList
  else []

/-- The blocks that a block goes on with, in the order in which they are
written. -/
def Block.successors (block : Block) : List BlockId :=
  block.afterCall?.toList ++ block.controls.flatMap ControlStructure.targets

/-- The blocks that a control structure goes on with once it is read. -/
def Clause.targets : Clause → List BlockId
  | .returns _ => []
  | .conditional _ whenTrue whenFalse next =>
      whenTrue.toList ++ whenFalse.toList ++ next.toList

/-- The blocks that a block goes on with once it is read. -/
def Reading.targets (reading : Reading) : List BlockId :=
  reading.tail.toList ++ reading.clauses.flatMap Clause.targets

variable {a : Analysis} {game : Game} {block : Block}

/-- Reading a control structure finds all blocks that it goes on with. -/
theorem Analysis.targets_readClause {control : ControlStructure} {clause : Option Clause}
    (h : a.readClause block control = .ok clause) :
    clause.toList.flatMap Clause.targets = control.targets := by
  unfold readClause at h
  cases hkind : control.kind with
  | returns =>
      rw [hkind] at h
      obtain ⟨statement, _, hclause⟩ := bind_eq_ok_iff.mp h
      cases hclause
      simp [ControlStructure.targets, hkind, Clause.targets]
  | ifCond =>
      rw [hkind] at h
      obtain ⟨condition, _, hclause⟩ := bind_eq_ok_iff.mp h
      cases hclause
      simp [ControlStructure.targets, hkind, Clause.targets]
  | _ =>
      rw [hkind] at h
      cases h
      simp [ControlStructure.targets, hkind]

/-- Reading a block finds all blocks that it goes on with. -/
theorem Analysis.targets_readBlock {reading : Reading}
    (h : a.readBlock game block = .ok reading) : reading.targets = block.successors := by
  obtain ⟨texts, call, clauses, _, _, hclauses, rfl⟩ := readBlock_eq_ok_iff.mp h
  have htargets (controls : List ControlStructure) (clauses : List (Option Clause))
      (hclauses : controls.mapM (a.readClause block) = .ok clauses) :
      (clauses.filterMap fun clause => clause).flatMap Clause.targets =
        controls.flatMap ControlStructure.targets := by
    induction controls generalizing clauses with
    | nil =>
        cases hclauses
        rfl
    | cons control rest ih =>
        rw [List.mapM_cons] at hclauses
        obtain ⟨clause, hclause, hrest⟩ := bind_eq_ok_iff.mp hclauses
        obtain ⟨others, hothers, hcons⟩ := bind_eq_ok_iff.mp hrest
        cases hcons
        rw [List.flatMap_cons, ← ih others hothers, ← targets_readClause hclause]
        cases clause <;> simp
  rw [Reading.targets, Block.successors, htargets block.controls clauses hclauses]

/-- The block that is to be written, if the thing is a block. -/
def Pending.block? : Pending → Option BlockId
  | .block id _ => some id
  | .text _ => none

/-- The blocks among the parts of a control structure are those that it goes on
with, in the same order. -/
theorem Clause.filterMap_parts (clause : Clause) (indent : Nat) :
    (clause.parts indent).filterMap Pending.block? = clause.targets := by
  cases clause with
  | returns statement => rfl
  | conditional condition whenTrue whenFalse next =>
      cases whenTrue <;> cases whenFalse <;> cases next <;> rfl

/-- The blocks among the parts of a reading are those that it goes on with, in the
same order. -/
theorem Reading.filterMap_parts (reading : Reading) (indent : Nat) :
    (reading.parts indent).filterMap Pending.block? = reading.targets := by
  have hclauses (clauses : List Clause) :
      (clauses.flatMap (Clause.parts indent)).filterMap Pending.block? =
        clauses.flatMap Clause.targets := by
    induction clauses with
    | nil => rfl
    | cons clause rest ih =>
        rw [List.flatMap_cons, List.filterMap_append, ih, Clause.filterMap_parts,
          List.flatMap_cons]
  rw [Reading.parts, Reading.targets, List.filterMap_append, List.filterMap_append, hclauses]
  cases reading.call <;> cases reading.tail <;> rfl

/-- The blocks among the parts of a reading are those that it goes on with, each at
some indent. -/
theorem Reading.mem_targets_iff {reading : Reading} {indent : Nat} {child : BlockId} :
    child ∈ reading.targets ↔ ∃ k, Pending.block child k ∈ reading.parts indent := by
  rw [← reading.filterMap_parts indent, List.mem_filterMap]
  constructor
  · rintro ⟨part, hpart, hchild⟩
    cases part with
    | text content => cases hchild
    | block id k =>
        cases hchild
        exact ⟨k, hpart⟩
  · rintro ⟨k, hk⟩
    exact ⟨_, hk, rfl⟩

/-- The block after a call is a child of the block that makes it. -/
theorem Block.mem_children_of_afterCall? {child : BlockId} (h : block.afterCall? = some child) :
    child ∈ block.children := by
  unfold Block.afterCall? Block.tail? at h
  by_cases hcall : EdgeType.subRoutineCall ∈ block.childTypes
  · rw [if_pos hcall] at h
    obtain ⟨⟨id, type⟩, hedge, hid⟩ := List.exists_of_findSome?_eq_some h
    have hmem : id ∈ block.children := (List.of_mem_zip hedge).1
    by_cases htype : type = EdgeType.subRoutineTail
    · simp only [if_pos htype, Option.some.injEq] at hid
      exact hid ▸ hmem
    · simp [htype] at hid
  · rw [if_neg hcall] at h
    cases h

/-- A control structure goes on with blocks that it names. -/
theorem ControlStructure.mem_blocks_of_mem_targets {control : ControlStructure} {child : BlockId}
    (h : child ∈ control.targets) : child ∈ control.blocks := by
  unfold ControlStructure.targets at h
  by_cases hkind : control.kind = .ifCond
  · simp only [if_pos hkind, List.mem_append] at h
    simp only [ControlStructure.blocks, List.mem_append]
    rcases h with (htrue | hfalse) | hnext
    · simp [htrue]
    · simp [hfalse]
    · simp [hnext]
  · rw [if_neg hkind] at h
    cases h

/-- A well-formed block goes on with blocks that exist. -/
theorem Block.WellFormed.successors (wf : block.WellFormed a) {child : BlockId}
    (h : child ∈ block.successors) : child.reference.Resolves a := by
  simp only [Block.successors, List.mem_append, List.mem_flatMap, Option.mem_toList] at h
  rcases h with htail | ⟨control, hcontrol, htarget⟩
  · exact wf.children child (Block.mem_children_of_afterCall? htail)
  · exact wf.controls control hcontrol child
      (ControlStructure.mem_blocks_of_mem_targets htarget)

end Targets

end NwScript
