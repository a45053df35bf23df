/-
# Scripts

A script is an analysis together with the game it was written for. This is what
a dump holds and what every form of output is made from.
-/

import NwScript.Game
import NwScript.Graph.Basic

namespace NwScript

/-- An analyzed script and the tables of its game. -/
structure Script where
  game : Game := {}
  analysis : Analysis := {}
  deriving DecidableEq

end NwScript
