/-
# Names of types, variables and functions

What the parts of a script are called in every form of output. A name that the
game does not supply is made up from the number.
-/

import NwScript.Game
import NwScript.Graph.Basic
import NwScript.Text.Digits

namespace NwScript

/-- The name of an engine type that the game does not name. -/
def slotName (slot : Nat) : String := "E" ++ toString slot

/-- The name of a type in a game. -/
def VariableType.name (game : Game) : VariableType → String
  | void => "void"
  | int => "int"
  | float => "float"
  | string => "string"
  | object => "object"
  | any => "any"
  | engine slot =>
      (game.engineType? slot.toNat).getD (slotName slot.toNat)

/-- The name of a variable. -/
def Variable.name (var : Variable) : String := "var_" ++ toString var.id

/-- A variable as it is declared: its type and its name. -/
def Variable.typedName (game : Game) (var : Variable) : String :=
  var.type.name game ++ " " ++ var.name

/-- The name of a function of the game. No function has a negative number. -/
def actionName (game : Game) (number : Int32) : String :=
  let known := if number < 0 then none else game.function? number.toInt.toNat
  known.getD ("action_" ++ toString number.toInt)

/-- The name of an address that is jumped to. -/
def jumpTargetName (address : UInt32) : String := "loc_" ++ Text.hex32 address

/-- The name of a subroutine that starts at an address and has none of its own. -/
def subRoutineAddressName (address : UInt32) : String := "sub_" ++ Text.hex32 address

/-- The name of a stored state that starts at an address. -/
def storeStateAddressName (address : UInt32) : String := "sta_" ++ Text.hex32 address

/-- The name of a subroutine that starts at an address: its own, or one that
tells its kind. -/
def SubRoutine.nameAt (sub : SubRoutine) (address : UInt32) : String :=
  match sub.name.bind Game.nonempty? with
  | some name => name
  | none =>
      match sub.kind with
      | .start => "_start"
      | .global => "_global"
      | .storeState => storeStateAddressName address
      | .none => subRoutineAddressName address

end NwScript
