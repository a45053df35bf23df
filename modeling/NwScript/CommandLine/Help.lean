/-
# What the program says about itself

The texts for those who ask for help, for the version, or for the completion of
command lines in a shell.
-/

import NwScript.CommandLine.Arguments

namespace NwScript.CommandLine

/-- The name of the program and its version. -/
def versionText : String := "ncsdis 0.1.0\n"

/-- What the program can do, and how it is asked to. -/
def helpText : String :=
  "Renders analyzed NWScript bytecode\n\n" ++
    "Usage: ncsdis disassemble file [OPTIONS] <PATH>\n" ++
    "       ncsdis completion <SHELL>\n\n" ++
    "Options:\n" ++
    "      --format <FORMAT>      listing, assembly, dot or nss [default: listing]\n" ++
    "      --print-stack          Print the stack before each instruction\n" ++
    "      --print-control-types  Tag graph nodes with their control structures\n" ++
    "  -o, --output <OUTPUT>      Write to this file instead of stdout\n" ++
    "  -h, --help                 Print help\n" ++
    "  -V, --version              Print version\n"

/-- The words that may follow the name of the program, in a line of the shell's
language that completes them. -/
def completionText : Shell → String
  | .bash => "complete -W 'disassemble completion help' ncsdis\n"
  | .elvish =>
      "set edit:completion:arg-completer[ncsdis] = \x7b |@words| " ++
        "put disassemble completion help \x7d\n"
  | .fish => "complete -c ncsdis -f -a 'disassemble completion help'\n"
  | .powershell =>
      "Register-ArgumentCompleter -Native -CommandName ncsdis -ScriptBlock " ++
        "\x7b 'disassemble', 'completion', 'help' \x7d\n"
  | .zsh => "compctl -k '(disassemble completion help)' ncsdis\n"

end NwScript.CommandLine
