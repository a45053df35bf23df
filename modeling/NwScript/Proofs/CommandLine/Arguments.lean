/-
# The command line of a request

Every request to write a dump can be made: by its path, the word for its form, the
flags that it sets and the file that it names. These arguments are understood as
the request, unless the path or the file looks like an option or is empty.
-/

import NwScript.CommandLine.Arguments
import NwScript.Proofs.Outcome

namespace NwScript.CommandLine

/-- The word that names a form. -/
def formatWord : OutputFormat → String
  | .listing => "listing"
  | .assembly => "assembly"
  | .dot => "dot"
  | .nss => "nss"

/-- What can stand for a path or a value: it is not empty and no option. A single
dash is none. -/
def IsWord (argument : String) : Prop :=
  argument ≠ "" ∧ ∀ c rest, argument.toList ≠ '-' :: c :: rest

namespace Seen

variable {seen : Seen} {argument : String} (word : IsWord argument)

include word

/-- A word is taken for the path where no value must come. -/
theorem take_eq_takePath (hended : seen.optionsEnded = false) (hawaiting : seen.awaiting = none) :
    seen.take argument = seen.takePath argument := by
  obtain ⟨_, hoption⟩ := word
  unfold take
  split <;> simp_all

/-- Where a value must come, a word is taken for it. -/
theorem take_eq_takeValue {option : ValueOption} (hended : seen.optionsEnded = false)
    (hawaiting : seen.awaiting = some option) :
    seen.take argument = seen.takeValue option argument := by
  obtain ⟨_, hoption⟩ := word
  unfold take
  split <;> simp_all

end Seen

section Requests

/-- The flags of a request. -/
def flagWords (options : RenderOptions) : List String :=
  (if options.printStack then ["--print-stack"] else []) ++
    if options.printControlTypes then ["--print-control-types"] else []

/-- The option that names the file of a request. -/
def outputWords : Option String → List String
  | none => []
  | some path => ["-o", path]

/-- The arguments that make a request. -/
def Request.arguments (request : Request) : List String :=
  ["disassemble", "file", request.path, "--format", formatWord request.options.format] ++
    (flagWords request.options ++ outputWords request.output)

/-- A path that comes first is the path of the request. -/
theorem take_first {path : String} (word : IsWord path) :
    ({} : Seen).take path = .ok { path := some path } := by
  have hempty : path.isEmpty = false := by simpa using word.1
  rw [Seen.take_eq_takePath word rfl rfl, Seen.takePath, hempty]
  rfl

/-- The form comes next. -/
theorem take_format (path : String) (format : OutputFormat) :
    ["--format", formatWord format].foldlM Seen.take { path := some path } =
      .ok { path := some path, format := some format } := by
  cases format <;> rfl

/-- After the form come the flags. -/
theorem take_flags (path : String) (options : RenderOptions) :
    (flagWords options).foldlM Seen.take { path := some path, format := some options.format } =
      .ok {
        path := some path
        format := some options.format
        printStack := options.printStack
        printControlTypes := options.printControlTypes } := by
  obtain ⟨format, printStack, printControlTypes⟩ := options
  cases printStack <;> cases printControlTypes <;> rfl

/-- The file comes last. -/
theorem take_output {seen : Seen} (hended : seen.optionsEnded = false)
    (hawaiting : seen.awaiting = none) (hnone : seen.output = none) {output : Option String}
    (words : ∀ path ∈ output, IsWord path) :
    (outputWords output).foldlM Seen.take seen = .ok { seen with output := output } := by
  obtain ⟨path, format, printStack, printControlTypes, before, awaiting, ended⟩ := seen
  cases hended
  cases hawaiting
  cases hnone
  cases output with
  | none => rfl
  | some file =>
      have word := words file rfl
      have hempty : file.isEmpty = false := by simpa using word.1
      have hletter :
          Seen.take ⟨path, format, printStack, printControlTypes, none, none, false⟩ "-o" = .ok
            ⟨path, format, printStack, printControlTypes, none, some .output, false⟩ := rfl
      rw [outputWords, List.foldlM_cons, hletter, ok_bind, List.foldlM_cons,
        Seen.take_eq_takeValue word rfl rfl, Seen.takeValue, hempty]
      rfl

/-- The arguments of a request are understood as the request. -/
theorem parse_arguments {request : Request} (hpath : IsWord request.path)
    (houtput : ∀ path ∈ request.output, IsWord path) :
    parse request.arguments = .ok (.render request) := by
  have hfile : parse request.arguments = (do
      (← (request.path :: (["--format", formatWord request.options.format] ++
        (flagWords request.options ++ outputWords request.output))).foldlM Seen.take {}).finish) :=
    rfl
  rw [hfile, List.foldlM_cons, take_first hpath, ok_bind, List.foldlM_append, take_format, ok_bind,
    List.foldlM_append, take_flags, ok_bind, take_output rfl rfl rfl houtput]
  rfl

end Requests

end NwScript.CommandLine
