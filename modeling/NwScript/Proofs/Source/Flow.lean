/-
# Control flow and the source text

A function is written along the structure of its subroutine: the blocks after
calls and the blocks that conditionals name. Control may pass between blocks
without either, from the body of a loop back to its head or on to what follows
the loop. A block that only such edges lead to is left out, with everything
behind it. So the blocks that control reaches are all written exactly if the
structure reaches the end of each edge; those that are written show all of their
statements.
-/

import Mathlib.Data.List.Infix
import NwScript.Proofs.Source.Paths

namespace NwScript

/-- Whether control stays in its subroutine along an edge of the type. -/
def EdgeType.isInner : EdgeType → Bool
  | unconditional | conditionalTrue | conditionalFalse | subRoutineTail => true
  | subRoutineCall | subRoutineStore | dead => false

namespace Analysis

/-- Control passes from one block of a subroutine to another. -/
def Flows (a : Analysis) (sub : SubId) (source target : BlockId) : Prop :=
  ∃ block next type, a.blockAt source = .ok block ∧ a.blockAt target = .ok next ∧
    block.subRoutine = sub ∧ next.subRoutine = sub ∧
    (target, type) ∈ block.children.zip block.childTypes ∧ type.isInner = true

/-- The text between the braces of a function. -/
def bodyText (a : Analysis) (game : Game) (sub : SubRoutine) : String :=
  String.join ((a.functionBody game sub).outputs.map Piece.output)

/-- Each statement of a block stands somewhere in a function. -/
def ShowsStatements (a : Analysis) (game : Game) (sub : SubRoutine) (id : BlockId) : Prop :=
  ∃ block statements, a.blockAt id = .ok block ∧
    (a.blockStatements game block).result = .ok statements ∧
    ∀ line ∈ statements, line.toList <:+: (a.bodyText game sub).toList

end Analysis

/-- What is joined holds each of its parts. -/
theorem infix_join {part : String} {parts : List String} (h : part ∈ parts) :
    part.toList <:+: (String.join parts).toList := by
  rw [String.toList_join]
  exact List.infix_of_mem_flatten (List.mem_map_of_mem h)

/-- The statements of a block stand in the text of the piece that holds them. -/
theorem Piece.infix_output {id : BlockId} {indent : Nat} {statements : List String}
    {line : String} (h : line ∈ statements) :
    line.toList <:+: (Piece.body id indent statements).output.toList := by
  have hline : line.toList <:+: (Text.tabs indent ++ line ++ "\n").toList := by
    rw [String.toList_append, String.toList_append]
    exact List.infix_append _ _ _
  exact hline.trans (infix_join (List.mem_map_of_mem h))

namespace Analysis

variable {a : Analysis} {game : Game} {sub : SubRoutine}

/-- A block that is written shows all of its statements. -/
theorem showsStatements_of_mem (h : (a.functionBody game sub).result = .ok ()) {id : BlockId}
    (mem : id ∈ writtenBlocks (a.functionBody game sub).outputs) :
    a.ShowsStatements game sub id := by
  obtain ⟨indent, statements, hpiece⟩ := mem_writtenBlocks_iff.mp mem
  obtain ⟨block, reading, found, hreading, rfl, _⟩ :=
    (piecesOwned_functionBody h).complete id indent statements hpiece
  refine ⟨block, reading.statements, found, result_blockStatements_of_readBlock hreading,
    fun line hline => ?_⟩
  exact (Piece.infix_output hline).trans (infix_join (List.mem_map_of_mem hpiece))

/-- All blocks that control reaches within a subroutine are written exactly if the
structure reaches the end of each edge on the way; and what is written shows all
of its statements. -/
theorem flow_written_iff (a : Analysis) (game : Game) (accepted : a.check = .ok ())
    (printed : ((a.printSource game).deliver none).result = .ok ()) (id : SubId)
    (sub : SubRoutine) (found : a.subRoutineAt id = .ok sub) (entry : BlockId)
    (first : sub.blocks.head? = some entry) :
    ((∀ b, Relation.ReflTransGen (a.Flows id) entry b →
        b ∈ writtenBlocks (a.functionBody game sub).outputs) ↔
      ∀ source target, Relation.ReflTransGen (a.Flows id) entry source →
        a.Flows id source target → Relation.ReflTransGen a.Continues entry target) ∧
      ∀ b ∈ writtenBlocks (a.functionBody game sub).outputs, a.ShowsStatements game sub b := by
  have wf := check_eq_ok_iff_wellFormed.mp accepted
  have listed : sub ∈ a.subRoutines := by
    unfold subRoutineAt at found
    split at found
    · next hsub =>
        cases found
        exact Array.mem_of_getElem? hsub
    · cases found
  rw [Transcript.result_deliver] at printed
  have hbody := result_functionBody_of_printSource printed listed
  have hwritten (b : BlockId) : b ∈ writtenBlocks (a.functionBody game sub).outputs ↔
      Relation.ReflTransGen a.Continues entry b :=
    mem_writtenBlocks_functionBody_iff wf (wf.subRoutines sub listed) first hbody
  refine ⟨⟨?_, ?_⟩, fun b mem => showsStatements_of_mem hbody mem⟩
  · intro h source target hsource hflows
    exact (hwritten target).mp (h target (hsource.tail hflows))
  · intro h b hb
    rw [hwritten]
    cases hb with
    | refl => exact .refl
    | tail hsource hflows => exact h _ b hsource hflows

/-- A subroutine that enters a loop, repeats its only block as long as a variable is
true, and goes on behind it. -/
def plainLoop : Analysis where
  size := 27
  instructions := #[
    { address := 13, opcode := .rsAdd, operandType := .int, operands := [⟨0⟩]
      follower := some ⟨1⟩, block := some ⟨0⟩, addressType := .subRoutine },
    { address := 15, opcode := .rsAdd, operandType := .int, operands := [⟨1⟩]
      follower := some ⟨2⟩, block := some ⟨1⟩, addressType := .jumpLabel },
    { address := 17, opcode := .jnz, operands := [⟨1⟩], branches := [⟨1⟩]
      follower := some ⟨3⟩, block := some ⟨1⟩ },
    { address := 23, opcode := .rsAdd, operandType := .int, operands := [⟨2⟩]
      follower := some ⟨4⟩, block := some ⟨2⟩ },
    { address := 25, opcode := .retn, block := some ⟨2⟩ }]
  blocks := #[
    { address := 13, instructions := [⟨0⟩], subRoutine := ⟨0⟩
      children := [⟨1⟩], childTypes := [.unconditional] },
    { address := 15, instructions := [⟨1⟩, ⟨2⟩], subRoutine := ⟨0⟩
      children := [⟨1⟩, ⟨2⟩], childTypes := [.conditionalTrue, .conditionalFalse]
      controls := [{ kind := .doWhileHead, loopHead := some ⟨1⟩, loopTail := some ⟨1⟩
                     loopNext := some ⟨2⟩ }] },
    { address := 23, instructions := [⟨3⟩, ⟨4⟩], subRoutine := ⟨0⟩ }]
  subRoutines := #[{ address := 13, blocks := [⟨0⟩, ⟨1⟩, ⟨2⟩], stackProgress := .finished }]
  vars := #[{ id := 1, type := .int }, { id := 2, type := .int }, { id := 3, type := .int }]
  hasStackAnalysis := true
  hasControlFlow := true

/-- The text of the function ends before the loop. -/
theorem bodyText_plainLoop :
    plainLoop.bodyText {} plainLoop.subRoutines[0] = "\tint var_1 = 0;\n" := by cbv

/-- Control enters the loop and leaves it again. -/
theorem flows_plainLoop :
    plainLoop.Flows ⟨0⟩ ⟨0⟩ ⟨1⟩ ∧ plainLoop.Flows ⟨0⟩ ⟨1⟩ ⟨2⟩ :=
  ⟨⟨_, _, .unconditional, rfl, rfl, rfl, rfl, by decide, rfl⟩,
    ⟨_, _, .conditionalFalse, rfl, rfl, rfl, rfl, by decide, rfl⟩⟩

/-- The structure does not reach the loop, so not all that control reaches is written;
the block before the loop is, and shows its statement. -/
theorem flow_written_plainLoop :
    plainLoop.check = .ok () ∧ ((plainLoop.printSource {}).deliver none).result = .ok () ∧
      (¬ ∀ source target, Relation.ReflTransGen (plainLoop.Flows ⟨0⟩) ⟨0⟩ source →
        plainLoop.Flows ⟨0⟩ source target →
        Relation.ReflTransGen plainLoop.Continues ⟨0⟩ target) ∧
      plainLoop.ShowsStatements {} plainLoop.subRoutines[0] ⟨0⟩ := by
  have accepted : plainLoop.check = .ok () := rfl
  have printed : ((plainLoop.printSource {}).deliver none).result = .ok () := by cbv
  have hwritten : writtenBlocks (plainLoop.functionBody {} plainLoop.subRoutines[0]).outputs =
      [⟨0⟩] := by cbv
  obtain ⟨hflow, hshows⟩ := flow_written_iff plainLoop {} accepted printed ⟨0⟩
    plainLoop.subRoutines[0] rfl ⟨0⟩ rfl
  rw [hwritten] at hflow hshows
  refine ⟨accepted, printed, ?_, hshows ⟨0⟩ List.mem_cons_self⟩
  intro hstructure
  have hmem := hflow.mpr hstructure ⟨1⟩ (.single flows_plainLoop.1)
  exact absurd hmem (by decide)

/-- A statement that does not stand in the function is not shown. -/
theorem not_showsStatements {id : BlockId} {block : Block} {line : String}
    (found : a.blockAt id = .ok block)
    (hline : (a.blockStatements game block).result = .ok [line])
    (missing : ¬ line.toList <:+: (a.bodyText game sub).toList) :
    ¬ a.ShowsStatements game sub id := by
  rintro ⟨same, statements, hsame, hstatements, shown⟩
  rw [found] at hsame
  cases hsame
  rw [hline] at hstatements
  cases hstatements
  exact missing (shown line List.mem_cons_self)

/-- Control reaches the body of the loop and what follows it, but the statements in
them do not stand in the function. -/
theorem loop_dropped_plainLoop :
    plainLoop.check = .ok () ∧ ((plainLoop.printSource {}).deliver none).result = .ok () ∧
      plainLoop.subRoutineAt ⟨0⟩ = .ok plainLoop.subRoutines[0] ∧
      plainLoop.subRoutines[0].blocks.head? = some ⟨0⟩ ∧
      (Relation.ReflTransGen (plainLoop.Flows ⟨0⟩) ⟨0⟩ ⟨1⟩ ∧
        ¬ plainLoop.ShowsStatements {} plainLoop.subRoutines[0] ⟨1⟩) ∧
      (Relation.ReflTransGen (plainLoop.Flows ⟨0⟩) ⟨0⟩ ⟨2⟩ ∧
        ¬ plainLoop.ShowsStatements {} plainLoop.subRoutines[0] ⟨2⟩) := by
  have enters := Relation.ReflTransGen.single flows_plainLoop.1
  have inLoop : (plainLoop.blockStatements {} plainLoop.blocks[1]).result =
      .ok ["int var_2 = 0;"] := by cbv
  have behindLoop : (plainLoop.blockStatements {} plainLoop.blocks[2]).result =
      .ok ["int var_3 = 0;"] := by cbv
  refine ⟨rfl, by cbv, rfl, rfl, ⟨enters, not_showsStatements rfl inLoop ?_⟩,
    ⟨enters.tail flows_plainLoop.2, not_showsStatements rfl behindLoop ?_⟩⟩
  · rw [bodyText_plainLoop]
    decide
  · rw [bodyText_plainLoop]
    decide

end Analysis

end NwScript
