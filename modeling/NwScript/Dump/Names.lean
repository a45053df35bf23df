/-
# Names in a dump

How a dump spells the cases of the types that have no content, and lists of all
these cases.
-/

import NwScript.Game
import NwScript.Graph.Basic
import NwScript.Options

namespace NwScript

namespace AddressType

/-- Every kind of address. -/
def all : List AddressType := [none, jumpLabel, subRoutine, storeState]

/-- The name of a kind of address. -/
def name : AddressType → String
  | none => "None"
  | jumpLabel => "JumpLabel"
  | subRoutine => "SubRoutine"
  | storeState => "StoreState"

end AddressType

namespace EdgeType

/-- Every type of edge. -/
def all : List EdgeType :=
  [unconditional, conditionalTrue, conditionalFalse, subRoutineCall, subRoutineTail,
    subRoutineStore, dead]

/-- The name of a type of edge. -/
def name : EdgeType → String
  | unconditional => "Unconditional"
  | conditionalTrue => "ConditionalTrue"
  | conditionalFalse => "ConditionalFalse"
  | subRoutineCall => "SubRoutineCall"
  | subRoutineTail => "SubRoutineTail"
  | subRoutineStore => "SubRoutineStore"
  | dead => "Dead"

end EdgeType

namespace ControlType

/-- Every part that a block can play. -/
def all : List ControlType :=
  [none, doWhileHead, doWhileTail, doWhileNext, whileHead, whileTail, whileNext,
    breaks, continues, returns, ifCond, ifTrue, ifElse, ifNext, unknown]

end ControlType

namespace SubRoutineType

/-- Every purpose of a subroutine. -/
def all : List SubRoutineType := [none, start, global, storeState]

/-- The name of a purpose. -/
def name : SubRoutineType → String
  | none => "None"
  | start => "Start"
  | global => "Global"
  | storeState => "StoreState"

end SubRoutineType

namespace StackProgress

/-- Every stage of the stack simulation. -/
def all : List StackProgress := [unstarted, inProgress, finished]

/-- The name of a stage. -/
def name : StackProgress → String
  | unstarted => "Unstarted"
  | inProgress => "InProgress"
  | finished => "Finished"

end StackProgress

namespace GameId

/-- Every game. -/
def all : List GameId :=
  [unknown, nwn, nwn2, kotor, kotor2, jade, witcher, dragonAge, dragonAge2]

/-- The name of a game. -/
def name : GameId → String
  | unknown => "Unknown"
  | nwn => "Nwn"
  | nwn2 => "Nwn2"
  | kotor => "Kotor"
  | kotor2 => "Kotor2"
  | jade => "Jade"
  | witcher => "Witcher"
  | dragonAge => "DragonAge"
  | dragonAge2 => "DragonAge2"

end GameId

/-- Every form of output. -/
def OutputFormat.all : List OutputFormat := [listing, assembly, dot, nss]

end NwScript
