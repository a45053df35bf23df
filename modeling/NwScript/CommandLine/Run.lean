/-
# Running a command line

A run reads at most one file and creates at most one. What it does is said here
for any file system that can be given by three operations, so that the same
rules hold for the files of the machine and for files that are only described.
-/

import NwScript.CommandLine.Arguments
import NwScript.CommandLine.Help
import NwScript.Rendering
import NwScript.Text.Shown

namespace NwScript.CommandLine

/-- The operations that a run uses. -/
structure FileSystem (m : Type → Type) where
  /-- The bytes of a file. -/
  read : String → m (Except Error (List UInt8))
  /-- Make a file, or empty it if it is there. -/
  create : String → m (Except AccessFault Unit)
  /-- Put a text into a file that was made before. -/
  write : String → String → m (Except AccessFault Unit)

/-- What a run leaves behind, apart from files. -/
structure Report where
  exitCode : UInt8
  output : String := ""
  /-- The message about a failure. -/
  failure : Option String := none
  /-- What was reported on the way. -/
  events : List Event := []
  deriving DecidableEq

/-- Write the dump in a file. The control flow analysis is asked for only if the
form needs it. -/
def renderFile (bytes : List UInt8) (options : RenderOptions) : Transcript String Unit := do
  let script ← loadScript bytes
  script.request .stack
  if options.format = .dot ∨ options.format = .nss then
    script.request .controlFlow
  script.render options

/-- The message about a failure to write a dump. A reference that leads nowhere
has been found before anything is written. -/
def renderFailure (path : String) (failure : Failure) : String :=
  let error : Error := match failure with
    | .error error => error
    | .unresolved reference => .dangling reference
  "failed to render " ++ Text.shown path ++ ": " ++ error.message

/-- The message about a failure to make a file. -/
def createFailure (path : String) (fault : AccessFault) : String :=
  "failed to create " ++ Text.shown path ++ ": " ++ fault.message

variable {m : Type → Type} [Monad m]

/-- Put a text into the file that a request names, or else to the standard output.
What is left for the standard output comes back. -/
def deliverText (fs : FileSystem m) (output : Option String) (text : String) :
    m (Except AccessFault String) := do
  match output with
  | none => return .ok text
  | some path => return (← fs.write path text).map fun _ => ""

/-- Read a dump and write it in the form that the request names, to the standard
output or into a file that has been made already. What was put out before a
failure is not taken back. -/
def writeRequest (fs : FileSystem m) (request : Request) : m Report := do
  match ← fs.read request.path with
  | .error error =>
      return { exitCode := 1, failure := some (renderFailure request.path (.error error)) }
  | .ok bytes =>
      let transcript := renderFile bytes request.options
      let events := transcript.events
      let delivered ← deliverText fs request.output (String.join transcript.outputs)
      match transcript.result, delivered with
      | .error failure, delivered =>
          return {
            exitCode := 1
            output := delivered.toOption.getD ""
            failure := some (renderFailure request.path failure)
            events := events }
      | .ok (), .ok output => return { exitCode := 0, output := output, events := events }
      | .ok (), .error fault =>
          return {
            exitCode := 1
            failure := some (renderFailure request.path (.error (.inaccessible fault)))
            events := events }

/-- Do what a command asks for. A file to write to is made before the dump is
read. -/
def runCommand (fs : FileSystem m) (command : Command) : m Report := do
  match command with
  | .complete shell => return { exitCode := 0, output := completionText shell }
  | .render request =>
      match request.output with
      | none => writeRequest fs request
      | some path =>
          match ← fs.create path with
          | .error fault => return { exitCode := 1, failure := some (createFailure path fault) }
          | .ok () => writeRequest fs request
  | .help => return { exitCode := 0, output := helpText }
  | .version => return { exitCode := 0, output := versionText }

/-- Run a command line. -/
def run (fs : FileSystem m) (arguments : List String) : m Report :=
  match parse arguments with
  | .ok command => runCommand fs command
  | .error .help => runCommand fs .help
  | .error .version => runCommand fs .version
  | .error .usage => return { exitCode := 2 }

end NwScript.CommandLine
