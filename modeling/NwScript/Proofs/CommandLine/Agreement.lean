/-
# What a run leaves of a dump

The program and the library come to the same text on ways of their own. The program
asks for the control flow analysis only where the form needs it, and what it puts
out before a failure is not taken back. Neither shows: that an analysis lacks is
reported and no failure, and a dump that is not written to its end has not been
begun. So a run leaves the text of the library, or its failure and no text.
-/

import NwScript.Proofs.CommandLine.Arguments
import NwScript.Proofs.CommandLine.Directory
import NwScript.Proofs.Dump.RoundTrip
import NwScript.Proofs.Rendering

namespace NwScript

/-- Two computations that differ at most in what they report. -/
structure Transcript.Alike {ω α : Type} (first second : Transcript ω α) : Prop where
  result : first.result = second.result
  outputs : first.outputs = second.outputs

section Alike

variable {ω α β : Type} {first second third : Transcript ω α}

/-- What goes before without putting anything out shows at most in the reports. -/
theorem Transcript.alike_bind {value : α} (h : first.result = .ok value)
    (silent : first.outputs = []) (next : α → Transcript ω β) :
    (first >>= next).Alike (next value) where
  result := by rw [result_bind, h, ok_bind]
  outputs := by rw [outputs_bind_of_ok h, silent, List.nil_append]

namespace Transcript.Alike

protected theorem refl (t : Transcript ω α) : t.Alike t := ⟨rfl, rfl⟩

protected theorem symm (h : first.Alike second) : second.Alike first :=
  ⟨h.result.symm, h.outputs.symm⟩

protected theorem trans (h : first.Alike second) (h' : second.Alike third) : first.Alike third :=
  ⟨h.result.trans h'.result, h.outputs.trans h'.outputs⟩

/-- Computations that differ in reports have the same text. -/
protected theorem text {first second : Transcript String Unit} (h : first.Alike second) :
    first.text = second.text := by
  rw [Transcript.text, Transcript.text, h.result, h.outputs]

end Transcript.Alike

end Alike

section Dumps

variable {dump : String} {script : Script} (options : RenderOptions)

/-- What is done with a script is the same whatever is reported of its stack analysis. -/
theorem alike_loaded {bytes : List UInt8} (h : loadScript bytes = .ok script)
    (next : Script → Transcript String Unit) :
    (do
      let script ← loadScript bytes
      script.request .stack
      next script : Transcript String Unit).Alike (next script) :=
  (Transcript.alike_bind ((Transcript.result_liftM _).trans h) rfl _).trans
    (Transcript.alike_bind (script.result_request .stack) (script.outputs_request .stack) _)

/-- What the library writes of a dump is written of the script in it. -/
theorem alike_presentDump (h : loadScript (Text.utf8Bytes dump) = .ok script) :
    (presentDump dump options).Alike (script.render options) := by
  refine (alike_loaded h fun script => do
    script.request .controlFlow
    script.render options).trans ?_
  exact Transcript.alike_bind (script.result_request .controlFlow)
    (script.outputs_request .controlFlow) _

/-- A dump that is not written to its end has not been begun. -/
theorem outputs_presentDump_of_error {failure : Failure}
    (h : (presentDump dump options).result = .error failure) :
    (presentDump dump options).outputs = [] := by
  cases hload : loadScript (Text.utf8Bytes dump) with
  | error reason =>
      rw [presentDump, Transcript.outputs_bind_of_error hload]
      rfl
  | ok script =>
      have halike := alike_presentDump options hload
      rw [halike.outputs]
      exact script.outputs_render_of_error options (halike.result.symm.trans h)

namespace CommandLine

/-- How a run ends on a text or on a failure to make one. -/
def exitCodeOf : Outcome String → UInt8
  | .ok _ => 0
  | .error _ => 1

/-- What a run says of a text, or of a failure to make one. -/
def messageOf (path : String) : Outcome String → Option String
  | .ok _ => none
  | .error failure => some (renderFailure path failure)

/-- What a run puts out of a text, or of a failure to make one. -/
def outputOf : Outcome String → String
  | .ok text => text
  | .error _ => ""

/-- What the program writes of a dump is what the library writes of it. -/
theorem alike_renderFile (dump : String) :
    (renderFile (Text.utf8Bytes dump) options).Alike (presentDump dump options) := by
  cases hload : loadScript (Text.utf8Bytes dump) with
  | error failure =>
      refine ⟨?_, ?_⟩
      · rw [renderFile, presentDump, Transcript.result_bind, Transcript.result_bind,
          Transcript.result_liftM, hload]
        rfl
      · rw [renderFile, presentDump, Transcript.outputs_bind_of_error hload,
          Transcript.outputs_bind_of_error hload]
  | ok script =>
      refine .trans ?_ (alike_presentDump options hload).symm
      refine (alike_loaded hload _).trans ?_
      split
      · exact Transcript.alike_bind (script.result_request .controlFlow)
          (script.outputs_request .controlFlow) _
      · exact .refl _

/-- What the program puts out of a dump is the text of the library, and nothing if
there is none. -/
theorem join_outputs_renderFile (dump : String) :
    String.join (renderFile (Text.utf8Bytes dump) options).outputs =
      outputOf (presentDump dump options).text := by
  rw [(alike_renderFile options dump).outputs, Transcript.text]
  cases hresult : (presentDump dump options).result with
  | ok value => rfl
  | error failure =>
      rw [outputs_presentDump_of_error options hresult]
      rfl

end CommandLine

end Dumps

namespace CommandLine

/-- What a run leaves of a text, or of a failure to make one: on the standard output
or in the file that the request names. -/
structure Leaves (request : Request) (rendered : Outcome String) (report : Report)
    (after : Directory) : Prop where
  exitCode : report.exitCode = exitCodeOf rendered
  failure : report.failure = messageOf request.path rendered
  output : report.output = if request.output.isNone then outputOf rendered else ""
  file : ∀ path ∈ request.output,
    after.contents path = .ok (Text.utf8Bytes (outputOf rendered))

section Runs

open Directory (fileSystem)

/-- A change of state is followed by the next from where it leads. -/
theorem run_bind_of_run {σ α β : Type} {first : StateM σ α} {value : α} {state later : σ}
    (h : first.run state = (value, later)) (next : α → StateM σ β) :
    (first >>= next).run state = (next value).run later := by
  rw [StateT.run_bind, h]
  rfl

variable {d after : Directory} {request : Request} {dump : String}

/-- A change that is not refused is made. -/
theorem run_change {step : Directory → Except AccessFault Directory} {later : Directory}
    (h : step d = .ok later) : (Directory.change step).run d = (.ok (), later) := by
  have hget : (get : StateM Directory Directory).run d = (d, d) := rfl
  rw [Directory.change, run_bind_of_run hget, h]
  rfl

/-- A text is put into a file of the directory. -/
theorem run_deliverText {path name : String} (located : d.locate path = .ok (.file name))
    (text : String) :
    (deliverText fileSystem (some path) text).run d =
      (.ok "", d.put name (Text.utf8Bytes text)) := by
  have hwrite : (fileSystem.write path text).run d = (.ok (), d.put name (Text.utf8Bytes text)) :=
    run_change (Directory.write_eq_put located text)
  exact run_bind_of_run hwrite _

/-- A dump that is read is written to where its text can be put. -/
theorem run_writeRequest {output : String}
    (held : d.contents request.path = .ok (Text.utf8Bytes dump))
    (delivered : (deliverText fileSystem request.output
        (outputOf (presentDump dump request.options).text)).run d = (.ok output, after)) :
    ∃ report, (writeRequest fileSystem request).run d = (report, after) ∧
      report.exitCode = exitCodeOf (presentDump dump request.options).text ∧
      report.failure = messageOf request.path (presentDump dump request.options).text ∧
      report.output = output := by
  have hread : (fileSystem.read request.path).run d = (.ok (Text.utf8Bytes dump), d) := by
    rw [← held]
    rfl
  rw [← join_outputs_renderFile] at delivered
  rw [← (alike_renderFile request.options dump).text, Transcript.text, writeRequest,
    run_bind_of_run hread]
  dsimp only
  rw [run_bind_of_run delivered]
  cases (renderFile (Text.utf8Bytes dump) request.options).result with
  | ok _ => exact ⟨_, rfl, rfl, rfl, rfl⟩
  | error failure => exact ⟨_, rfl, rfl, rfl, rfl⟩

/-- A request without a file is followed on the standard output. -/
theorem run_render_output (held : d.contents request.path = .ok (Text.utf8Bytes dump))
    (hnone : request.output = none) :
    ∃ report, (runCommand fileSystem (.render request)).run d = (report, d) ∧
      Leaves request (presentDump dump request.options).text report d := by
  have hdeliver : (deliverText fileSystem request.output
      (outputOf (presentDump dump request.options).text)).run d =
        (.ok (outputOf (presentDump dump request.options).text), d) := by
    rw [hnone]
    rfl
  obtain ⟨report, hrun, hexit, hfailure, htext⟩ := run_writeRequest held hdeliver
  refine ⟨report, ?_, hexit, hfailure, ?_, ?_⟩
  · rw [runCommand, hnone]
    exact hrun
  · rw [htext, hnone]
    rfl
  · rw [hnone]
    exact nofun

/-- A request with a file is followed in that file, if it is not the dump. -/
theorem run_render_file (held : d.contents request.path = .ok (Text.utf8Bytes dump))
    {path name : String} (hsome : request.output = some path)
    (located : d.locate path = .ok (.file name)) (apart : d.locate request.path ≠ .ok (.file name))
    (created : d.create path = .ok (d.put name [])) :
    let after := (d.put name []).put name
      (Text.utf8Bytes (outputOf (presentDump dump request.options).text))
    ∃ report, (runCommand fileSystem (.render request)).run d = (report, after) ∧
      Leaves request (presentDump dump request.options).text report after := by
  have hheld := Directory.contents_put held apart []
  have hdeliver := run_deliverText (Directory.locate_eq_ok (d.put name []) located)
    (outputOf (presentDump dump request.options).text)
  rw [← hsome] at hdeliver
  have hcreate : (fileSystem.create path).run d = (.ok (), d.put name []) := run_change created
  obtain ⟨report, hrun, hexit, hfailure, htext⟩ := run_writeRequest hheld hdeliver
  refine ⟨report, ?_, hexit, hfailure, ?_, ?_⟩
  · rw [runCommand, hsome]
    exact (run_bind_of_run hcreate _).trans hrun
  · rw [htext, hsome]
    rfl
  · intro other hother
    rw [hsome] at hother
    cases hother
    exact Directory.contents_of_find? (Directory.locate_eq_ok _ located)
      (Directory.find?_put_self _ name _)

/-- A request is followed, and the dump stays what it is. -/
theorem run_render (held : d.contents request.path = .ok (Text.utf8Bytes dump))
    (fills : ∀ path ∈ request.output, d.CanFill request.path path) :
    ∃ report after, (runCommand fileSystem (.render request)).run d = (report, after) ∧
      Leaves request (presentDump dump request.options).text report after ∧
      after.console = d.console ∧ after.contents request.path = .ok (Text.utf8Bytes dump) := by
  cases houtput : request.output with
  | none =>
      obtain ⟨report, hrun, hleaves⟩ := run_render_output held houtput
      exact ⟨report, d, hrun, hleaves, rfl, held⟩
  | some path =>
      obtain ⟨name, made, located, apart, created⟩ := fills path houtput
      obtain rfl := Directory.eq_put_of_create located created
      obtain ⟨report, hrun, hleaves⟩ := run_render_file held houtput located apart created
      refine ⟨report, _, hrun, hleaves, rfl, ?_⟩
      refine Directory.contents_put (Directory.contents_put held apart []) ?_ _
      exact fun h => apart (Directory.locate_eq_ok d h)

/-- A script whose entry goes back to itself. -/
def loopScript : Script := { analysis := Analysis.unfinishedLoop }

/-- A directory with its dump. -/
def loopDirectory : Directory where
  files := [("d", Text.utf8Bytes (Dump.writeScript loopScript))]

/-- The request to write the dump as an assembly into a file beside it. -/
def loopRequest : Request where
  path := "d"
  options := { format := .assembly }
  output := some "q"

/-- The assembly of the script. -/
def loopAssembly : String := "; 0 bytes, 2 instructions\n\n  RSADDI\n  JZ         loc_0000000D\n\n"

/-- The path of the dump leads to it. -/
theorem locate_loopDirectory : loopDirectory.locate "d" = .ok (.file "d") := by
  have hempty : Directory.locate { files := [] } "d" = .ok (.file "d") := by cbv
  exact Directory.locate_eq_ok loopDirectory hempty

/-- The file beside it can be made. -/
theorem canFill_loopDirectory : loopDirectory.CanFill "d" "q" := by
  have hempty : Directory.locate { files := [] } "q" = .ok (.file "q") := by cbv
  have located := Directory.locate_eq_ok loopDirectory hempty
  refine ⟨"q", _, located, ?_, Directory.create_eq_put located (by cbv)⟩
  rw [locate_loopDirectory]
  decide

/-- What the library makes of the dump. -/
theorem text_loopScript :
    (presentDump (Dump.writeScript loopScript) loopRequest.options).text = .ok loopAssembly := by
  have hread : Dump.readScript (Text.utf8Bytes (Dump.writeScript loopScript)) = .ok loopScript :=
    Dump.readScript_of_spelledBy (Dump.script.encode loopScript).spelledBy_text
  rw [(Dump.holds_of_readScript hread).renders]
  cbv

end Runs

end CommandLine

end NwScript
