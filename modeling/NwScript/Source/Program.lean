/-
# The source text of a script

A source text declares the global variables and then defines a function for each
subroutine. Every statement is made of variables, so nothing can be written
before both analyses have been made; and since an incomplete block may come up
anywhere, nothing is put out before everything has been written.
-/

import NwScript.Naming.Signature
import NwScript.Source.Walk

namespace NwScript

namespace Analysis

variable (a : Analysis) (game : Game)

/-- The declaration of a global variable. -/
def globalText (id : VarId) : Resolved String := do
  return (← a.variableAt id).typedName game ++ ";\n"

/-- What stands between the braces of a function: its entry block and all that
is below it. -/
def functionBody (sub : SubRoutine) : Transcript Piece Unit :=
  match sub.blocks with
  | [] => pure ()
  | entry :: _ => a.printFrom game entry 1

/-- The function that a subroutine becomes. -/
def printFunction (sub : SubRoutine) : Transcript Piece Unit := do
  if 1 < sub.returns.length then
    .stop (.severalReturns sub.address sub.returns.length)
  let signature ← Outcome.ofResolved (a.signature game true sub)
  .write (.text ("\n" ++ signature ++ " \x7b\n"))
  a.functionBody game sub
  .write (.text "\x7d\n")

/-- The whole source text, piece by piece. -/
def printProgram : Transcript Piece Unit := do
  .write (.text "// Decompiled using ncsdis\n\n")
  a.globals.forM fun id => do
    .write (.text (← Outcome.ofResolved (a.globalText game id)))
  a.subRoutines.toList.forM (a.printFunction game)

/-- Write the source text of a script, all of it or nothing. -/
def printSource : Transcript String Unit := do
  if !a.carries .stack then .stop (.notAnalyzed .stack)
  if !a.carries .controlFlow then .stop (.notAnalyzed .controlFlow)
  ((a.printProgram game).mapOutputs Piece.output).buffered
  .log (.wroteSource a.subRoutines.size a.globals.length)

end Analysis

end NwScript
