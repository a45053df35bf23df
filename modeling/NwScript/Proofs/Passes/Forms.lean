/-
# Forms without the findings of an analysis

What of a script a form of output shows can be told by taking the findings of an
analysis out. Where the stack has not been simulated, a listing, an assembly and
a flowchart show none of the stack simulation's findings, even if some are there.
A listing and an assembly never show what the control flow recovery found, not
even beside the stacks. So two scripts that are the same but for such findings
cannot be told apart by these forms.
-/

import NwScript.Proofs.Graph.WellFormed
import NwScript.Proofs.Passes.Names
import NwScript.Rendering

namespace NwScript.Analysis

variable {pass : Pass} {a : Analysis} (game : Game)

section Signatures

/-- A declaration is not made of what the control flow recovery found. -/
theorem signature_forgetFlow (withNames : Bool) (sub : SubRoutine) :
    (a.forget .controlFlow).signature game withNames (sub.forget .controlFlow) =
      a.signature game withNames sub := by
  have hreturn : (a.forget .controlFlow).returnTypeName game (sub.forget .controlFlow) =
      a.returnTypeName game sub := rfl
  have hparams : (sub.forget .controlFlow).params.mapM
      ((a.forget .controlFlow).parameterText game withNames) =
        sub.params.mapM (a.parameterText game withNames) := rfl
  simp only [signature, subRoutineLabel?_forget, SubRoutine.forget_keeps, hreturn, hparams]

/-- A signature is known without the findings of an analysis, unless it is made of
them. -/
theorem knownSignature?_forget (unknown : pass = .stack → a.hasStackAnalysis = false)
    (sub : SubRoutine) :
    (a.forget pass).knownSignature? game (sub.forget pass) = a.knownSignature? game sub := by
  cases pass with
  | stack =>
      have hflag : (a.forget .stack).hasStackAnalysis = false := unknown rfl
      simp [knownSignature?, hflag, unknown rfl]
  | controlFlow =>
      simp only [knownSignature?, signature_forgetFlow]
      rfl

/-- The signature beside a label is the same. -/
theorem signatureBeside?_forget (unknown : pass = .stack → a.hasStackAnalysis = false)
    (instr : Instruction) :
    (a.forget pass).signatureBeside? game (instr.forget pass) =
      a.signatureBeside? game instr := by
  have hflag : (a.forget pass).hasStackAnalysis = a.hasStackAnalysis := rfl
  simp only [signatureBeside?, knownSignatureAt?, Instruction.forget_keeps, hflag,
    subRoutineOf?_forget, subRoutineAt_forget, bind_map_left, knownSignature?_forget game unknown]

end Signatures

section Linear

/-- A stack is shown without what the control flow recovery found. -/
theorem stackRows_forgetFlow (instr : Instruction) :
    (a.forget .controlFlow).stackRows game instr = a.stackRows game instr := by
  have hrow (slot : Nat) (id : VarId) :
      (a.forget .controlFlow).stackRow game slot id = a.stackRow game slot id := by
    have hvariable (id : VarId) :
        (a.forget .controlFlow).variableAt id = a.variableAt id := rfl
    simp only [stackRow, hvariable, instructionAt_forget, bind_map_left,
      Instruction.forget_keeps]
  simp only [stackRows, hrow]

/-- What is shown of an instruction is the same, if its stack is not shown or not
forgotten. -/
theorem entry_forget (unknown : pass = .stack → a.hasStackAnalysis = false) {withStack : Bool}
    (known : withStack = true → a.hasStackAnalysis = true) (instr : Instruction) :
    (a.forget pass).entry game withStack (instr.forget pass) =
      a.entry game withStack instr := by
  have hbytes : (instr.forget pass).bytesText = instr.bytesText := by
    simp [Instruction.bytesText, Instruction.encoding]
  simp only [entry, label?_forget, signatureBeside?_forget game unknown, instructionText_forget,
    Instruction.forget_keeps, hbytes]
  cases withStack with
  | false => rfl
  | true =>
      cases pass with
      | stack => exact absurd ((unknown rfl).symm.trans (known rfl)) Bool.false_ne_true
      | controlFlow =>
          have hrows : (a.forget .controlFlow).stackRows game (instr.forget .controlFlow) =
              a.stackRows game instr := stackRows_forgetFlow game instr
          simp only [hrows]

/-- A linear form is the same. -/
theorem printLinear_forget (unknown : pass = .stack → a.hasStackAnalysis = false)
    (style : LinearStyle) (printStack : Bool) :
    (a.forget pass).printLinear game style printStack = a.printLinear game style printStack := by
  have hflag : (a.forget pass).hasStackAnalysis = a.hasStackAnalysis := rfl
  have hsize : (a.forget pass).instructions.size = a.instructions.size := Array.size_map
  have hinfo : (a.forget pass).infoText = a.infoText := by
    simp only [infoText, hsize]
    rfl
  have hentries : (a.forget pass).entries game printStack = a.entries game printStack := by
    have known : (printStack && a.hasStackAnalysis) = true → a.hasStackAnalysis = true :=
      fun h => (Bool.and_eq_true_iff.mp h).2
    have hinstructions : (a.forget pass).instructions.toList =
        a.instructions.toList.map (Instruction.forget pass) := Array.toList_map
    simp only [entries, hflag, hinstructions, List.mapM_map, Function.comp_def,
      entry_forget game unknown known]
  simp only [printLinear, hinfo, hflag, hentries, hsize]

end Linear

section Flowchart

variable (unsimulated : a.hasStackAnalysis = false)

include unsimulated

/-- A cluster shows nothing of what the stack simulation found. -/
theorem cluster?_forgetStack (withTags : Bool) (sub : SubRoutine) :
    (a.forget .stack).cluster? game withTags (sub.forget .stack) =
      a.cluster? game withTags sub := by
  have hblock (block : Block) : Block.forget .stack block = block := rfl
  have hlines (block : Block) : (a.forget .stack).blockLines game block =
      a.blockLines game block := by
    simp only [blockLines, instructionAt_forget, bind_map_left, instructionText_forget]
  have htitle (block : Block) : (a.forget .stack).blockTitle block = a.blockTitle block := by
    have hlabel := blockLabel?_forget .stack a block
    rw [hblock] at hlabel
    simp only [blockTitle, hlabel]
  have hlabel : (a.forget .stack).clusterLabel game (sub.forget .stack) =
      a.clusterLabel game sub := by
    simp only [clusterLabel, knownSignature?_forget game fun _ => unsimulated,
      subRoutineLabel?_forget, SubRoutine.forget_keeps]
  simp only [cluster?, SubRoutine.forget_keeps, blockAt_forget, bind_map_left, hblock, hlabel,
    blockNodes, htitle, hlines]

/-- A flowchart is the same. -/
theorem printFlowchart_forgetStack (printControlTypes : Bool) :
    (a.forget .stack).printFlowchart game printControlTypes =
      a.printFlowchart game printControlTypes := by
  have hedges : (a.forget .stack).blockEdges = a.blockEdges := by
    funext block
    simp only [blockEdges, edge, blockAt_forget, bind_map_left, Block.forget]
    rfl
  have hblocks : (a.forget .stack).blocks = a.blocks := Array.map_id a.blocks
  have hsubs : (a.forget .stack).subRoutines.toList =
      a.subRoutines.toList.map (SubRoutine.forget .stack) := Array.toList_map
  have hsize : (a.forget .stack).subRoutines.size = a.subRoutines.size := Array.size_map
  have hgraph : (a.forget .stack).flowchart game printControlTypes =
      a.flowchart game printControlTypes := by
    simp only [flowchart, hsubs, List.mapM_map, Function.comp_def,
      cluster?_forgetStack game unsimulated, hedges, hblocks]
  simp only [printFlowchart, hgraph, hblocks, hsize]

end Flowchart

section Renderings

variable {b : Analysis}

/-- Whether the stack has been simulated is not forgotten. -/
theorem hasStackAnalysis_eq_of_forget_eq (same : a.forget pass = b.forget pass) :
    a.hasStackAnalysis = b.hasStackAnalysis := by
  show (a.forget pass).hasStackAnalysis = (b.forget pass).hasStackAnalysis
  rw [same]

/-- Two scripts that are the same without the findings of an analysis have the same
linear forms, unless these findings are shown. -/
theorem printLinear_eq_of_forget_eq (same : a.forget pass = b.forget pass)
    (unknown : pass = .stack → a.hasStackAnalysis = false) (style : LinearStyle)
    (printStack : Bool) :
    a.printLinear game style printStack = b.printLinear game style printStack := by
  have hflag := hasStackAnalysis_eq_of_forget_eq same
  calc a.printLinear game style printStack
      = (a.forget pass).printLinear game style printStack :=
        (printLinear_forget game unknown style printStack).symm
    _ = (b.forget pass).printLinear game style printStack := by rw [same]
    _ = b.printLinear game style printStack :=
        printLinear_forget game (hflag ▸ unknown) style printStack

/-- Two scripts that are the same without the findings of a stack simulation that has
not been made have the same flowchart. -/
theorem printFlowchart_eq_of_forget_eq (same : a.forget .stack = b.forget .stack)
    (unsimulated : a.hasStackAnalysis = false) (printControlTypes : Bool) :
    a.printFlowchart game printControlTypes = b.printFlowchart game printControlTypes := by
  have hflag := hasStackAnalysis_eq_of_forget_eq same
  calc a.printFlowchart game printControlTypes
      = (a.forget .stack).printFlowchart game printControlTypes :=
        (printFlowchart_forgetStack game unsimulated printControlTypes).symm
    _ = (b.forget .stack).printFlowchart game printControlTypes := by rw [same]
    _ = b.printFlowchart game printControlTypes :=
        printFlowchart_forgetStack game (hflag ▸ unsimulated) printControlTypes

/-- Accepted scripts without a stack analysis that are the same but for findings of
the stack simulation are rendered the same in every form but the source text,
whatever else the options say. Accepted scripts that are the same but for findings
of the control flow recovery are rendered the same in both linear forms, with
stacks and without. Not even the events on the way tell them apart. -/
theorem render_eq_of_forget_eq (accepted : a.check = .ok ()) (accepted' : b.check = .ok ()) :
    (a.hasStackAnalysis = false → b.hasStackAnalysis = false →
      a.forget .stack = b.forget .stack → ∀ options : RenderOptions, options.format ≠ .nss →
        (Script.mk game a).render options = (Script.mk game b).render options) ∧
    (a.forget .controlFlow = b.forget .controlFlow →
      ∀ options : RenderOptions, options.format = .listing ∨ options.format = .assembly →
        (Script.mk game a).render options = (Script.mk game b).render options) := by
  have hcheck : (Script.mk game a).check = (Script.mk game b).check := by
    simp only [Script.check, accepted, accepted']
  have hlinear {pass : Pass} (same : a.forget pass = b.forget pass)
      (unknown : pass = .stack → a.hasStackAnalysis = false) (style : LinearStyle)
      (printStack : Bool) : (Script.mk game a).printLinear style printStack =
        (Script.mk game b).printLinear style printStack := by
    simp only [Script.printLinear, hcheck, printLinear_eq_of_forget_eq game same unknown]
  constructor
  · intro unsimulated _ same options hformat
    have hflowchart : (Script.mk game a).printFlowchart options.printControlTypes =
        (Script.mk game b).printFlowchart options.printControlTypes := by
      simp only [Script.printFlowchart, hcheck,
        printFlowchart_eq_of_forget_eq game same unsimulated]
    unfold Script.render
    cases hof : options.format with
    | listing => simp only [hlinear same fun _ => unsimulated]
    | assembly => simp only [hlinear same fun _ => unsimulated]
    | dot => simp only [hflowchart]
    | nss => exact absurd hof hformat
  · intro same options hformat
    unfold Script.render
    rcases hformat with hof | hof
    · simp only [hof, hlinear same nofun]
    · simp only [hof, hlinear same nofun]

/-- The loop without a stack analysis may lose its variables and its stacks, and with
one it may lose its edges and its conditional: neither shows. -/
theorem render_eq_unfinishedLoop :
    let unsimulated := { unfinishedLoop with hasStackAnalysis := false }
    (unsimulated.check = .ok () ∧ (unsimulated.forget .stack).check = .ok () ∧
      unsimulated.hasStackAnalysis = false ∧ unsimulated ≠ unsimulated.forget .stack ∧
      unsimulated.forget .stack = (unsimulated.forget .stack).forget .stack ∧
      (Script.mk {} unsimulated).render { format := .dot } =
        (Script.mk {} (unsimulated.forget .stack)).render { format := .dot }) ∧
    (unfinishedLoop.check = .ok () ∧ (unfinishedLoop.forget .controlFlow).check = .ok () ∧
      unfinishedLoop ≠ unfinishedLoop.forget .controlFlow ∧
      unfinishedLoop.forget .controlFlow =
        (unfinishedLoop.forget .controlFlow).forget .controlFlow ∧
      (Script.mk {} unfinishedLoop).render { printStack := true } =
        (Script.mk {} (unfinishedLoop.forget .controlFlow)).render { printStack := true }) := by
  intro unsimulated
  have lost : unsimulated ≠ unsimulated.forget .stack := fun same =>
    absurd (congrArg (fun a => a.vars.size) same) (by decide)
  have lost' : unfinishedLoop ≠ unfinishedLoop.forget .controlFlow := fun same =>
    absurd (congrArg (fun a => a.hasControlFlow) same) (by decide)
  have accepted : (unsimulated.forget .stack).check = .ok () := by decide +kernel
  have accepted' : (unfinishedLoop.forget .controlFlow).check = .ok () := by decide +kernel
  have again : unsimulated.forget .stack = (unsimulated.forget .stack).forget .stack :=
    (forget_forget .stack unsimulated).symm
  have again' : unfinishedLoop.forget .controlFlow =
      (unfinishedLoop.forget .controlFlow).forget .controlFlow :=
    (forget_forget .controlFlow unfinishedLoop).symm
  have withoutStack := render_eq_of_forget_eq {} (a := unsimulated) rfl accepted
  have withoutFlow := render_eq_of_forget_eq {} (a := unfinishedLoop) rfl accepted'
  exact ⟨⟨rfl, accepted, rfl, lost, again,
      withoutStack.1 rfl rfl again { format := .dot } nofun⟩,
    ⟨rfl, accepted', lost', again', withoutFlow.2 again' { printStack := true } (.inl rfl)⟩⟩

end Renderings

end NwScript.Analysis
