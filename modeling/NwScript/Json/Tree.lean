/-
# Trees read from JSON texts

A text is read into a `Tree` before it is known what it should mean. Reading
goes as far as the text is JSON, and the tree shows where it stopped: whoever
takes the tree apart in the order of the text meets that place exactly where a
reader of the text itself would. So a value of the wrong type is noticed before
a fault further on, and a fault before a value of the wrong type behind it.
-/

import NwScript.Json.Fault
import NwScript.Json.Numeral

namespace NwScript.Json

/-- A part of a string: a byte of the text, or of what a short escape stands
for; or a unit that is given by its number. -/
inductive Fragment
  | byte (b : UInt8)
  | unit (code : Nat)
  deriving DecidableEq

/-- A string as it is written, up to its closing quote or to the place where
reading stopped. -/
structure RawString where
  fragments : List Fragment
  /-- Why the string has no end, if it has none. -/
  fault? : Option Fault := none
  deriving DecidableEq

/-- How a list of items or members ends. -/
inductive Close
  /-- By its bracket. -/
  | closed
  /-- Reading stopped: in the last part, or behind it. -/
  | stopped (fault : Fault)
  /-- Reading stopped behind a comma. -/
  | dangling (fault : Fault)
  deriving DecidableEq

/-- The fault that someone meets who skips to the end. -/
def Close.fault? : Close → Option Fault
  | closed => none
  | stopped fault | dangling fault => some fault

/-- A value read from a text, or what stands in its place. -/
inductive Tree
  | null
  | bool (value : Bool)
  | number (numeral : Numeral)
  | string (string : RawString)
  | array (items : List Tree) (close : Close)
  | object (members : List (RawString × Tree)) (close : Close)
  /-- The text ends where the value should begin. -/
  | absent
  /-- Something that belongs into no value. -/
  | unexpected
  /-- The text ends within a word. -/
  | cutWord
  /-- The text ends within a number. -/
  | cutNumber

/-- The fault that someone meets who skips the value. What is skipped needs to be
JSON and nothing more; strings may hold anything that can be written in them. -/
def Tree.skipFault? : Tree → Option Fault
  | null | bool _ | number _ => none
  | string s => s.fault?
  | array _ close | object _ close => close.fault?
  | absent | cutWord => some .truncated
  | unexpected | cutNumber => some .malformed

/-- A whole text. -/
structure Document where
  root : Tree
  /-- Whether something follows the value. -/
  trailing : Bool

end NwScript.Json
