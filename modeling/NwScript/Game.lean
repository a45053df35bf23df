/-
# Games

A script calls functions and passes handles that belong to the game it was
written for. The bytecode knows both by number; the tables here turn the
numbers into names.
-/

namespace NwScript

/-- The games whose scripts share this bytecode. -/
inductive GameId
  | unknown
  | nwn
  | nwn2
  | kotor
  | kotor2
  | jade
  | witcher
  | dragonAge
  | dragonAge2
  deriving DecidableEq

/-- The names a game gives to its engine types and functions. The `id` is
information for the reader of a dump: what is written depends on the tables
alone. -/
structure Game where
  id : GameId := .unknown
  /-- Names of the handle types by slot; a slot may be left unnamed. -/
  engineTypes : List (Option String) := []
  functions : List String := []
  deriving DecidableEq

namespace Game

/-- A name counts only if it has a character. -/
def nonempty? (name : String) : Option String :=
  if name.isEmpty then none else some name

/-- The name of an engine type, if its slot has one. -/
def engineType? (game : Game) (slot : Nat) : Option String :=
  (game.engineTypes[slot]?.bind fun entry => entry).bind nonempty?

/-- The name of a function, if the table has one for its number. -/
def function? (game : Game) (number : Nat) : Option String :=
  game.functions[number]?.bind nonempty?

end Game

end NwScript
