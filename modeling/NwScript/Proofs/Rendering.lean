/-
# Rendering, whatever the script and the sink

A script is checked before anything is written of it. One that is refused is an
error and no text; one that is accepted is well-formed, so linear forms and
flowcharts are written to their ends, and a source text is written or lacks a
part. Nothing ever stops at a reference that leads nowhere, and a rendering that
fails has put out nothing, so that what a sink holds is always the beginning of
a whole text.
-/

import NwScript.Proofs.Flowchart.Partition
import NwScript.Proofs.Resolution.Forms
import NwScript.Proofs.Source.Reachability
import NwScript.Rendering

namespace NwScript

/-- Whatever sink takes the output of a computation, it does not stop at a
reference that leads nowhere. -/
def Transcript.FindsAll (t : Transcript String Unit) : Prop :=
  ∀ size reference, (t.deliver size).result ≠ .error (.unresolved reference)

/-- A computation that ends with a value or with an error finds all. -/
theorem Transcript.findsAll_of_settles {t : Transcript String Unit}
    (h : t.result.Settles fun _ => True) : t.FindsAll := by
  intro size reference
  rw [result_deliver]
  split
  · intro hfull
    cases hfull
  · exact h.ne_unresolved reference

namespace Script

variable (script : Script) (options : RenderOptions)

/-- What is written of a script in the form that the options name, once it has
been checked. -/
def writing : Transcript String Unit :=
  match options.format with
  | .listing => script.analysis.printLinear script.game .listing options.printStack
  | .assembly => script.analysis.printLinear script.game .assembly options.printStack
  | .dot => script.analysis.printFlowchart script.game options.printControlTypes
  | .nss => script.analysis.printSource script.game

/-- A rendering is a check and what is written after it, in every form. -/
theorem render_eq :
    script.render options = (do
      .log (.rendering options)
      script.check
      script.writing options) := by
  unfold render writing
  cases options.format <;> rfl

section Writing

variable {script} (wf : script.analysis.WellFormed)

include wf

/-- What is written after a check ends with a text or with an error. -/
theorem settles_writing : (script.writing options).result.Settles fun _ => True := by
  rw [writing]
  cases options.format with
  | listing =>
      rw [Analysis.result_printLinear wf]
      exact Ends.pure trivial
  | assembly =>
      rw [Analysis.result_printLinear wf]
      exact Ends.pure trivial
  | dot =>
      rw [Analysis.result_printFlowchart wf]
      exact Ends.pure trivial
  | nss => exact Analysis.settles_printSource wf script.game

/-- What is written after a check puts out nothing if it fails: only a source text
can, and that is held back. -/
theorem outputs_writing_of_error {failure : Failure}
    (h : (script.writing options).result = .error failure) :
    (script.writing options).outputs = [] := by
  unfold writing at h ⊢
  cases hformat : options.format with
  | listing =>
      simp only [hformat, Analysis.result_printLinear wf, reduceCtorEq] at h
  | assembly =>
      simp only [hformat, Analysis.result_printLinear wf, reduceCtorEq] at h
  | dot =>
      simp only [hformat, Analysis.result_printFlowchart wf, reduceCtorEq] at h
  | nss =>
      rw [hformat] at h
      exact Analysis.outputs_printSource_of_error h

end Writing

/-- A rendering ends with a text or with an error, whatever the script. -/
theorem settles_render : (script.render options).result.Settles fun _ => True := by
  rw [render_eq, Transcript.result_bind, Transcript.result_log, ok_bind, Transcript.result_bind]
  rw [check]
  cases hcheck : script.analysis.check with
  | error error => exact ⟨error, rfl⟩
  | ok _ => exact settles_writing options (Analysis.check_eq_ok_iff_wellFormed.mp hcheck)

/-- A rendering that fails has put out nothing. -/
theorem outputs_render_of_error {failure : Failure}
    (h : (script.render options).result = .error failure) :
    (script.render options).outputs = [] := by
  rw [render_eq, Transcript.result_bind, Transcript.result_log, ok_bind,
    Transcript.result_bind] at h
  rw [render_eq, Transcript.outputs_bind_of_ok (Transcript.result_log _), Transcript.outputs_log,
    List.nil_append]
  cases hcheck : script.analysis.check with
  | error error =>
      have hrefused : script.check.result = .error (.error error) :=
        congrArg Outcome.ofChecked hcheck
      rw [Transcript.outputs_bind_of_error hrefused]
      rfl
  | ok _ =>
      have haccepted : script.check.result = .ok () := congrArg Outcome.ofChecked hcheck
      rw [haccepted, ok_bind] at h
      rw [Transcript.outputs_bind_of_ok haccepted,
        outputs_writing_of_error options (Analysis.check_eq_ok_iff_wellFormed.mp hcheck) h]
      rfl

/-- On a sink with a bound, a rendering leaves the beginning of its text, as much
as fits, and fails if that is not all. A rendering that fails on a sink without
a bound fails in the same way on every other, and leaves nothing. -/
theorem render_on_bounded_sink (script : Script) (options : RenderOptions) (room : Nat) :
    let whole := (script.render options).deliver none
    let bounded := (script.render options).deliver (some room)
    match whole.result with
    | .ok () =>
        bounded.written = whole.written.extract 0 (min room whole.written.size) ∧
        bounded.result =
          if whole.written.size ≤ room then .ok ()
          else .error (.error (.inaccessible .sinkFull))
    | .error failure =>
        bounded.result = .error failure ∧ bounded.written = .empty ∧
        ∃ error, failure = .error error := by
  intro whole bounded
  have hresult : whole.result = (script.render options).result :=
    Transcript.result_deliver none (script.render options)
  have hwritten := Transcript.written_deliver_bounded (script.render options) room
  have hends := Transcript.result_deliver_bounded (script.render options) room
  cases h : whole.result with
  | ok _ =>
      rw [h] at hends
      exact ⟨hwritten, hends⟩
  | error failure =>
      have hfailed : (script.render options).result = .error failure := hresult.symm.trans h
      have hempty : whole.written = .empty := by
        show ((script.render options).deliver none).written = .empty
        rw [Transcript.written_deliver, Sink.holds, Transcript.bytes,
          outputs_render_of_error script options hfailed]
        rfl
      have hreported := (settles_render script options).of_error hfailed
      refine ⟨?_, ?_, hreported⟩
      · rw [h, hempty, ByteArray.size_empty, if_pos (Nat.zero_le room)] at hends
        exact hends
      · rw [hempty, ByteArray.size_empty, Nat.min_zero, ByteArray.extract_same] at hwritten
        exact hwritten

/-- To ask for an analysis never fails. -/
theorem result_request (pass : Pass) : (script.request pass).result = .ok () := by
  rw [request]
  split <;> rfl

/-- To ask for an analysis puts out nothing. -/
theorem outputs_request (pass : Pass) : (script.request pass).outputs = [] := by
  rw [request]
  split <;> rfl

/-- That the analyses are asked for first does not show in the text. -/
theorem text_present : (script.present options).text = (script.render options).text := by
  rw [present, Transcript.text_bind_of_silent (script.result_request .stack)
    (script.outputs_request .stack), Transcript.text_bind_of_silent
    (script.result_request .controlFlow) (script.outputs_request .controlFlow)]

/-- A dump is rendered or it is an error, whatever is in it. -/
theorem settles_presentDump (dump : String) (options : RenderOptions) :
    (presentDump dump options).result.Settles fun _ => True := by
  unfold presentDump loadScript
  rw [Transcript.result_bind, Transcript.result_liftM]
  cases hread : Dump.readScript (Text.utf8Bytes dump) with
  | error error => exact ⟨error, rfl⟩
  | ok script =>
      show (script.present options).result.Settles fun _ => True
      simp only [present, Transcript.result_bind, result_request, ok_bind]
      exact settles_render script options

end Script

section Safety

open Flowchart

/-- What can be relied on when a script is written. -/
structure Analysis.SafelyWritten (a : Analysis) (game : Game) : Prop where
  /-- A linear form is written to its end. -/
  linearEnds : ∀ style printStack,
    ((a.printLinear game style printStack).deliver none).result = .ok ()
  /-- A flowchart is written to its end. -/
  flowchartEnds : ∀ printControlTypes,
    ((a.printFlowchart game printControlTypes).deliver none).result = .ok ()
  /-- On the way, whatever the sink, every reference leads somewhere. -/
  linearFindsAll : ∀ style printStack, (a.printLinear game style printStack).FindsAll
  flowchartFindsAll : ∀ printControlTypes, (a.printFlowchart game printControlTypes).FindsAll
  sourceFindsAll : (a.printSource game).FindsAll
  /-- A block has a last node, and a first one by whose size each of its
  instructions finds a node. -/
  nodesFound : ∀ block ∈ a.blocks, 0 < nodeCount block.instructions.length ∧
    ∃ first, (evenSizes block.instructions.length).head? = some first ∧
      ∀ i < block.instructions.length,
        i / max 1 first < (partition block.instructions).length
  /-- As many variables as a call takes are there, or the call is refused. -/
  argumentsFound : ∀ instr ∈ a.instructions,
    if instr.operands.length < instr.argumentCount then
      a.callText game instr = .error (.error (.tooFewVariables instr.address instr.opcode
        instr.argumentCount instr.operands.length))
    else ∃ text, a.callText game instr = .ok text

/-- A script that is accepted is written without following a reference that
leads nowhere or counting beyond the end of a list; so whatever text is given
as a dump, it is rendered or it is an error. -/
theorem rendering_is_safe :
    (∀ (a : Analysis) (game : Game), a.check = .ok () → a.SafelyWritten game) ∧
    ∀ (dump : String) (options : RenderOptions),
      (∃ text, (presentDump dump options).text = .ok text) ∨
      ∃ error, (presentDump dump options).text = .error (.error error) := by
  constructor
  · intro a game accepted
    have wf := Analysis.check_eq_ok_iff_wellFormed.mp accepted
    have hlinear := Analysis.result_printLinear wf game
    have hflowchart := Analysis.result_printFlowchart wf game
    have hsettles {t : Transcript String Unit} (h : t.result = .ok ()) :
        t.result.Settles fun _ => True := by
      rw [h]
      exact Ends.pure trivial
    exact
      { linearEnds := fun style printStack =>
          (Transcript.result_deliver none _).trans (hlinear style printStack)
        flowchartEnds := fun printControlTypes =>
          (Transcript.result_deliver none _).trans (hflowchart printControlTypes)
        linearFindsAll := fun style printStack =>
          Transcript.findsAll_of_settles (hsettles (hlinear style printStack))
        flowchartFindsAll := fun printControlTypes =>
          Transcript.findsAll_of_settles (hsettles (hflowchart printControlTypes))
        sourceFindsAll := Transcript.findsAll_of_settles (Analysis.settles_printSource wf game)
        nodesFound := fun block _ =>
          ⟨nodeCount_pos _, exists_first_node block.instructions⟩
        argumentsFound := fun instr hinstr =>
          Analysis.callText_enough_or_refused wf game (wf.instructions instr hinstr) }
  · intro dump options
    have hsettles := Script.settles_presentDump dump options
    rw [Transcript.text]
    cases h : (presentDump dump options).result with
    | ok _ => exact .inl ⟨_, rfl⟩
    | error failure =>
        obtain ⟨error, rfl⟩ := hsettles.of_error h
        exact .inr ⟨error, rfl⟩

/-- The loop is written safely, although its source text lacks a part. -/
theorem rendering_is_safe_unfinishedLoop :
    Analysis.unfinishedLoop.check = .ok () ∧ Analysis.unfinishedLoop.SafelyWritten {} :=
  ⟨rfl, rendering_is_safe.1 Analysis.unfinishedLoop {} rfl⟩

end Safety

end NwScript
