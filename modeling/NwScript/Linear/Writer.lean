/-
# Writing a linear form

A listing or an assembly is a head that tells the size of the script and names
the engine types of the game, and then the entries of all instructions.
-/

import NwScript.Linear.Layout
import NwScript.Transcript

namespace NwScript

namespace Analysis

/-- The line that tells the size of the script, and an empty one. -/
def infoText (a : Analysis) : String :=
  "; " ++ toString a.size ++ " bytes, " ++ toString a.instructions.size ++ " instructions\n\n"

end Analysis

/-- The line of one engine type, if the game names it. -/
def Game.engineTypeLine (game : Game) (slot : Nat) : String :=
  match game.engineType? slot with
  | some name => "; " ++ slotName slot ++ ": " ++ name ++ "\n"
  | none => ""

/-- The names of the engine types, if the game has any. -/
def Game.engineTypesText (game : Game) : String :=
  if game.engineTypes.isEmpty then ""
  else "; Engine types:\n" ++
    String.join ((List.range game.engineTypes.length).map game.engineTypeLine) ++ "\n"

namespace Analysis

/-- Write a script in one of the linear styles. That stacks cannot be shown is
reported before the first instruction. -/
def printLinear (a : Analysis) (game : Game) (style : LinearStyle) (printStack : Bool) :
    Transcript String Unit := do
  .write a.infoText
  .write game.engineTypesText
  if printStack && !a.hasStackAnalysis then
    .log .stackOmitted
  let entries ← Outcome.ofResolved (a.entries game printStack)
  entries.forM fun entry => .write (entry.layout style)
  .log (.wroteLinear a.instructions.size style)

end Analysis

end NwScript
