/-
# Arguments of the command line

The program has two commands: one writes a dump in a chosen form, the other
prints a script that completes command lines. The arguments are taken from left
to right, so a request for help counts only if nothing before it was wrong.
-/

import NwScript.Options

namespace NwScript.CommandLine

/-- The shells that command lines can be completed in. -/
inductive Shell
  | bash
  | elvish
  | fish
  | powershell
  | zsh
  deriving DecidableEq

/-- A dump to be written. -/
structure Request where
  path : String
  options : RenderOptions
  /-- The file to write to, if it is not the standard output. -/
  output : Option String
  deriving DecidableEq

/-- What the command line asks for. -/
inductive Command
  | render (request : Request)
  | complete (shell : Shell)
  | help
  | version
  deriving DecidableEq

/-- Why the arguments are not followed to their end. -/
inductive Stop
  /-- They ask for help. -/
  | help
  /-- They ask for the version. -/
  | version
  /-- They are wrong. -/
  | usage
  deriving DecidableEq

/-- An option that takes a value. -/
inductive ValueOption
  | format
  | output
  deriving DecidableEq

/-- The arguments seen so far. -/
structure Seen where
  path : Option String := none
  format : Option OutputFormat := none
  printStack : Bool := false
  printControlTypes : Bool := false
  output : Option String := none
  /-- The option whose value must come next. -/
  awaiting : Option ValueOption := none
  /-- Whether options have been ended. -/
  optionsEnded : Bool := false

/-- The form that a word names. -/
def format? (word : String) : Option OutputFormat :=
  match word with
  | "listing" => some .listing
  | "assembly" => some .assembly
  | "dot" => some .dot
  | "nss" => some .nss
  | _ => none

/-- The shell that a word names. -/
def shell? (word : String) : Option Shell :=
  match word with
  | "bash" => some .bash
  | "elvish" => some .elvish
  | "fish" => some .fish
  | "powershell" => some .powershell
  | "zsh" => some .zsh
  | _ => none

namespace Seen

/-- Take a path: there is one, and it is not empty. -/
def takePath (seen : Seen) (path : String) : Except Stop Seen :=
  if seen.path.isSome || path.isEmpty then throw .usage
  else return { seen with path := some path }

/-- Take the value of an option, which may be given once. -/
def takeValue (seen : Seen) (option : ValueOption) (value : String) : Except Stop Seen :=
  match option with
  | .format =>
      match seen.format, format? value with
      | none, some format => return { seen with format := some format, awaiting := none }
      | _, _ => throw .usage
  | .output =>
      if seen.output.isSome || value.isEmpty then throw .usage
      else return { seen with output := some value, awaiting := none }

/-- Take an option by its long name, with the value that was attached to it. -/
def takeLong (seen : Seen) (name : String) (value : Option String) : Except Stop Seen :=
  match name, value with
  | "help", none => throw .help
  | "print-stack", none =>
      if seen.printStack then throw .usage else return { seen with printStack := true }
  | "print-control-types", none =>
      if seen.printControlTypes then throw .usage
      else return { seen with printControlTypes := true }
  | "format", none => return { seen with awaiting := some .format }
  | "format", some value => seen.takeValue .format value
  | "output", none => return { seen with awaiting := some .output }
  | "output", some value => seen.takeValue .output value
  | _, _ => throw .usage

/-- Take an option by its letter, with what was attached to it. -/
def takeShort (seen : Seen) : List Char → Except Stop Seen
  | 'h' :: _ => throw .help
  | ['o'] => return { seen with awaiting := some .output }
  | 'o' :: '=' :: value => seen.takeValue .output (String.ofList value)
  | 'o' :: value => seen.takeValue .output (String.ofList value)
  | _ => throw .usage

/-- The name and the value in an argument such as `name=value`. -/
def splitValue (argument : List Char) : String × Option String :=
  match argument.span (· ≠ '=') with
  | (name, '=' :: value) => (String.ofList name, some (String.ofList value))
  | (name, _) => (String.ofList name, none)

/-- Take one argument. Where a value must come, nothing that looks like an option
is taken for one. -/
def take (seen : Seen) (argument : String) : Except Stop Seen :=
  match seen.optionsEnded, argument.toList, seen.awaiting with
  | true, _, some _ => throw .usage
  | true, _, none => seen.takePath argument
  | false, ['-', '-'], _ => return { seen with optionsEnded := true }
  | false, '-' :: '-' :: long, none =>
      let (name, value) := splitValue long
      seen.takeLong name value
  | false, '-' :: c :: short, none => seen.takeShort (c :: short)
  | false, '-' :: _ :: _, some _ => throw .usage
  | false, _, some option => seen.takeValue option argument
  | false, _, none => seen.takePath argument

/-- What the arguments ask for, once there are no more. -/
def finish (seen : Seen) : Except Stop Command :=
  match seen.path, seen.awaiting with
  | some path, none =>
      return .render {
        path := path
        options := {
          format := seen.format.getD .listing
          printStack := seen.printStack
          printControlTypes := seen.printControlTypes }
        output := seen.output }
  | _, _ => throw .usage

end Seen

/-- The arguments of the command that writes a dump. -/
def parseFile (arguments : List String) : Except Stop Command := do
  (← arguments.foldlM Seen.take {}).finish

/-- Whether an argument asks for help: by its name, or by its letter with
anything behind it. -/
def asksForHelp (argument : String) : Bool :=
  argument == "--help" || argument.startsWith "-h"

/-- The arguments of the command that prints a completion script, given the
shell that was named before and whether options have been ended. -/
def parseCompletion (shell : Option Shell) (optionsEnded : Bool) :
    List String → Except Stop Command
  | [] =>
      match shell with
      | some shell => return .complete shell
      | none => throw .usage
  | word :: rest =>
      if !optionsEnded && word == "--" then parseCompletion shell true rest
      else if !optionsEnded && asksForHelp word then throw .help
      else
        match shell, shell? word with
        | none, some named => parseCompletion (some named) optionsEnded rest
        | _, _ => throw .usage

/-- The arguments of a request for help on a command. -/
def parseHelp (arguments : List String) : Except Stop Command :=
  match arguments with
  | [] | ["help"] | ["disassemble"] | ["disassemble", "file"] | ["disassemble", "help"]
  | ["completion"] => throw .help
  | _ => throw .usage

/-- The arguments of the command that has the writing of a dump below it. -/
def parseDisassemble : List String → Except Stop Command
  | "file" :: rest => parseFile rest
  | "help" :: topic =>
      match topic with
      | [] | ["file"] | ["help"] => throw .help
      | _ => throw .usage
  | first :: _ => if asksForHelp first then throw .help else throw .usage
  | [] => throw .usage

/-- What a command line asks for. Without arguments it asks for help. -/
def parse : List String → Except Stop Command
  | [] | ["--"] => throw .help
  | "disassemble" :: rest => parseDisassemble rest
  | "completion" :: rest => parseCompletion none false rest
  | "help" :: topic => parseHelp topic
  | first :: _ =>
      if asksForHelp first then throw .help
      else if first == "--version" || first.startsWith "-V" then throw .version
      else throw .usage

end NwScript.CommandLine
