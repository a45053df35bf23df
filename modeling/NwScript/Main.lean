/-
# The program

The command line on the files of the machine: arguments come from the system,
output and messages go to the standard streams, and the exit code is returned.
-/

import NwScript.CommandLine.Directory

namespace NwScript.CommandLine

/-- The fault that the operating system's refusal amounts to. -/
def accessFault (refusal : IO.Error) : AccessFault :=
  match refusal with
  | .noFileOrDirectory _ code details | .permissionDenied _ code details
  | .inappropriateType _ code details | .invalidArgument _ code details
  | .resourceExhausted _ code details => .refused details code.toNat
  | other => .refused (toString other) 0

/-- The files of the machine. -/
def machineFiles : FileSystem IO where
  read path := do
    try
      let bytes ← IO.FS.readBinFile path
      return .ok bytes.data.toList
    catch refusal =>
      let fault := accessFault refusal
      return .error (if fault = isDirectory then .invalidDump .truncated else .inaccessible fault)
  create path := do
    try
      IO.FS.writeBinFile path .empty
      return .ok ()
    catch refusal => return .error (accessFault refusal)
  write path text := do
    try
      IO.FS.writeFile path text
      return .ok ()
    catch refusal => return .error (accessFault refusal)

/-- Run a command line and show what it reports. Of the events only the warnings
are shown. -/
def runHere (arguments : List String) : IO UInt32 := do
  let report ← run machineFiles arguments
  report.events.forM fun event => do
    if event.severity = .warn then IO.eprintln event.text
  IO.print report.output
  if let some failure := report.failure then IO.eprintln failure
  if report.exitCode = 2 then IO.eprint helpText
  return report.exitCode.toUInt32

end NwScript.CommandLine

/-- The entry point of the program. -/
def main (arguments : List String) : IO UInt32 := NwScript.CommandLine.runHere arguments
