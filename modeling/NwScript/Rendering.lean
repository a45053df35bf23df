/-
# Rendering a script

A script is checked before anything is written of it, whatever the form. A dump
that is rendered as a whole is read, asked for both analyses, and written in the
form that the options name.
-/

import NwScript.Dump.Codec
import NwScript.Flowchart.Dot
import NwScript.Graph.Obligation
import NwScript.Linear.Writer
import NwScript.Source.Program
import NwScript.Text.Utf8

namespace NwScript

namespace Script

variable (script : Script)

/-- Ask for an analysis. It was made beforehand or not at all; that it was not is
reported. -/
def request (pass : Pass) : Transcript String Unit :=
  if script.analysis.carries pass then pure () else .log (.dumpLacks pass)

/-- Check the script, without writing anything. -/
def check : Transcript String Unit :=
  .ofOutcome (Outcome.ofChecked script.analysis.check)

/-- Check the script and write it in a linear style. -/
def printLinear (style : LinearStyle) (printStack : Bool) : Transcript String Unit := do
  script.check
  script.analysis.printLinear script.game style printStack

/-- Check the script and write its flowchart. -/
def printFlowchart (printControlTypes : Bool) : Transcript String Unit := do
  script.check
  script.analysis.printFlowchart script.game printControlTypes

/-- Check the script and write its source text. -/
def printSource : Transcript String Unit := do
  script.check
  script.analysis.printSource script.game

/-- Write the script in the form that the options name. -/
def render (options : RenderOptions) : Transcript String Unit := do
  .log (.rendering options)
  match options.format with
  | .listing => script.printLinear .listing options.printStack
  | .assembly => script.printLinear .assembly options.printStack
  | .dot => script.printFlowchart options.printControlTypes
  | .nss => script.printSource

/-- Ask for both analyses and write the script. -/
def present (options : RenderOptions) : Transcript String Unit := do
  script.request .stack
  script.request .controlFlow
  script.render options

end Script

/-- Read a script from the bytes of a dump. -/
def loadScript (bytes : List UInt8) : Outcome Script :=
  Outcome.ofChecked (Dump.readScript bytes)

/-- Read the text of a dump and write the script that it holds. -/
def presentDump (dump : String) (options : RenderOptions) : Transcript String Unit := do
  let script ← loadScript (Text.utf8Bytes dump)
  script.present options

end NwScript
