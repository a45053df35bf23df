/-
# Linear forms and flowcharts of well-formed scripts

Whatever a listing, an assembly or a flowchart shows of a well-formed script can
be found: the entries of all instructions with their stacks, the nodes of all
blocks and the edges between them. So these forms never stop early.
-/

import NwScript.Flowchart.Dot
import NwScript.Linear.Writer
import NwScript.Proofs.Resolution.Names
import NwScript.Proofs.Transcript

namespace NwScript.Analysis

variable {a : Analysis} (wf : a.WellFormed) (game : Game)

include wf

section Linear

/-- What is shown of a stack slot can be found. -/
theorem yields_stackRow (slot : Nat) {id : VarId} (hid : id.reference.Resolves a) :
    (a.stackRow game slot id).Yields fun _ => True := by
  rw [stackRow]
  apply Ends.bind (wf.variableAt hid)
  intro var hvar
  have hsiblings : ∀ s ∈ var.siblings.toList,
      Resolved.Yields (fun _ => True) (do return (← a.variableAt s).id) := by
    intro s hs
    apply Ends.bind (wf.variableAt (hvar.siblings s hs))
    intro sibling _
    exact Ends.pure trivial
  apply Ends.bind (Ends.mapM hsiblings)
  intro siblings _
  cases hcreator : var.creator with
  | none => exact Ends.pure trivial
  | some maker =>
      apply Ends.bind (wf.instructionAt (hvar.creator maker hcreator))
      intro instr _
      exact Ends.pure trivial

/-- What is shown of an instruction can be found. -/
theorem yields_entry (withStack : Bool) {instr : Instruction} (hinstr : instr.WellFormed a) :
    (a.entry game withStack instr).Yields fun _ => True := by
  have hsignature : (a.signatureBeside? game instr).Yields fun _ => True := by
    rw [signatureBeside?]
    split
    · apply Ends.bind (yields_subRoutineOf? wf hinstr)
      intro found hfound
      cases found with
      | none => exact Ends.pure trivial
      | some id => exact yields_knownSignatureAt? wf game (hfound id rfl)
    · exact Ends.pure trivial
  have hrows : ∀ place ∈ instr.stack.zipIdx,
      (a.stackRow game place.2 place.1).Yields fun _ => True := by
    intro place hplace
    exact yields_stackRow wf game place.2 (hinstr.stack _ (List.fst_mem_of_mem_zipIdx hplace))
  rw [entry]
  apply Ends.bind (yields_label? wf hinstr)
  intro label _
  apply Ends.bind hsignature
  intro signature _
  have htext (stack : Option (List StackRow)) : Resolved.Yields (fun _ => True)
      (do
        let text ← a.instructionText game instr
        return ({
          label := label
          signature := signature
          stack := stack
          address := instr.address
          bytes := instr.bytesText
          text := text
          endsFlow := instr.follower.isNone } : Entry)) :=
    Ends.bind (yields_instructionText wf game hinstr) fun _ _ => Ends.pure trivial
  split
  · have hstack : Resolved.Yields (fun _ => True) (some <$> a.stackRows game instr) :=
      Ends.map (Ends.mapM hrows) fun _ _ => trivial
    exact Ends.bind hstack fun stack _ => htext stack
  · exact htext none

/-- What a linear form shows of a script can be found. -/
theorem yields_entries (printStack : Bool) :
    (a.entries game printStack).Yields fun _ => True := by
  have hentries : ∀ instr ∈ a.instructions.toList,
      (a.entry game (printStack && a.hasStackAnalysis) instr).Yields fun _ => True := by
    intro instr hinstr
    exact yields_entry wf game _ (wf.instructions instr (Array.mem_toList_iff.mp hinstr))
  exact Ends.weaken (Ends.mapM hentries) fun _ _ => trivial

/-- A linear form is written to its end. -/
theorem result_printLinear (style : LinearStyle) (printStack : Bool) :
    (a.printLinear game style printStack).result = .ok () := by
  obtain ⟨entries, hentries, _⟩ := (yields_entries wf game printStack).exists_value
  rw [printLinear]
  split
  · simp only [Transcript.result_bind, Transcript.result_liftM, hentries,
      Outcome.ofResolved_ok, Transcript.result_forM_write, Transcript.result_write,
      Transcript.result_log, ok_bind]
  · simp only [Transcript.result_bind, Transcript.result_liftM, hentries,
      Outcome.ofResolved_ok, Transcript.result_forM_write, Transcript.result_write,
      Transcript.result_log, ok_bind]

end Linear

section Flowchart

/-- What the nodes of a block show can be found. -/
theorem yields_blockNodes (withTags : Bool) {block : Block} (hblock : block.WellFormed a) :
    (a.blockNodes game withTags block).Yields fun _ => True := by
  rw [blockNodes]
  have htitle : (a.blockTitle block).Yields fun _ => True :=
    Ends.bind (yields_blockLabel? wf hblock) fun _ _ => Ends.pure trivial
  apply Ends.bind htitle
  intro title _
  have hlines : ∀ id ∈ block.instructions,
      Resolved.Yields (fun _ => True) (do a.instructionText game (← a.instructionAt id)) := by
    intro id hid
    apply Ends.bind (wf.instructionAt (hblock.instructions id hid))
    intro instr hinstr
    exact yields_instructionText wf game hinstr
  apply Ends.bind (Ends.mapM hlines)
  intro lines _
  exact Ends.pure trivial

/-- What a cluster shows can be found, and whether there is one. -/
theorem yields_cluster? (withTags : Bool) {sub : SubRoutine} (hsub : sub.WellFormed a) :
    (a.cluster? game withTags sub).Yields fun _ => True := by
  have hlabel : (a.clusterLabel game sub).Yields fun _ => True := by
    rw [clusterLabel]
    apply Ends.bind (yields_knownSignature? wf game hsub)
    intro known _
    cases known with
    | some signature => exact Ends.pure trivial
    | none => exact Ends.bind (yields_subRoutineLabel? wf hsub) fun _ _ => Ends.pure trivial
  have hnodes : ∀ id ∈ sub.blocks, Resolved.Yields (fun _ => True)
      (do a.blockNodes game withTags (← a.blockAt id)) := by
    intro id hid
    apply Ends.bind (wf.blockAt (hsub.blocks id hid))
    intro block hblock
    exact yields_blockNodes wf game withTags hblock
  rw [cluster?]
  cases hblocks : sub.blocks with
  | nil => exact Ends.pure trivial
  | cons first rest =>
      rw [hblocks] at hnodes
      apply Ends.bind (wf.blockAt (hsub.blocks first (hblocks ▸ List.mem_cons_self)))
      intro entry _
      split
      · exact Ends.pure trivial
      · apply Ends.bind hlabel
        intro label _
        apply Ends.bind (Ends.mapM hnodes)
        intro blocks _
        exact Ends.pure trivial

/-- The edges that leave a block can be found. -/
theorem yields_blockEdges {block : Block} (hblock : block.WellFormed a) :
    (a.blockEdges block).Yields fun _ => True := by
  have hedges : ∀ child ∈ block.children.zip block.childTypes,
      (a.edge block child.1 child.2).Yields fun _ => True := by
    intro child hchild
    apply Ends.bind (wf.blockAt (hblock.children child.1 (List.of_mem_zip hchild).1))
    intro target _
    exact Ends.pure trivial
  exact Ends.weaken (Ends.mapM hedges) fun _ _ => trivial

/-- The flowchart of a script can be found. -/
theorem yields_flowchart (withTags : Bool) :
    (a.flowchart game withTags).Yields fun _ => True := by
  have hclusters : ∀ sub ∈ a.subRoutines.toList,
      (a.cluster? game withTags sub).Yields fun _ => True := by
    intro sub hsub
    exact yields_cluster? wf game withTags (wf.subRoutines sub (Array.mem_toList_iff.mp hsub))
  have hedges : ∀ block ∈ a.blocks.toList, (a.blockEdges block).Yields fun _ => True := by
    intro block hblock
    exact yields_blockEdges wf (wf.blocks block (Array.mem_toList_iff.mp hblock))
  rw [flowchart]
  apply Ends.bind (Ends.mapM hclusters)
  intro clusters _
  apply Ends.bind (Ends.mapM hedges)
  intro edges _
  exact Ends.pure trivial

/-- A flowchart is written to its end. -/
theorem result_printFlowchart (printControlTypes : Bool) :
    (a.printFlowchart game printControlTypes).result = .ok () := by
  obtain ⟨graph, hgraph, _⟩ := (yields_flowchart wf game printControlTypes).exists_value
  have hwrite := Transcript.result_forM_write (fun piece => piece) graph.pieces
  simp only [printFlowchart, Transcript.result_bind, Transcript.result_liftM, hgraph,
    Outcome.ofResolved_ok, ok_bind, hwrite, Transcript.result_log]

end Flowchart

end NwScript.Analysis
