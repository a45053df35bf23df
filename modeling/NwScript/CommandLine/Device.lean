/-
# Devices

What can be opened like a file and is none: it is read and written by rules of
its own.
-/

import NwScript.CommandLine.Refusal

namespace NwScript.CommandLine

/-- The devices of the machine. -/
inductive Device
  /-- It is empty, and loses what is written. -/
  | null
  /-- It holds bytes without end that are no text, and loses what is written. -/
  | endless
  /-- Like an endless one, but without room. -/
  | full
  /-- The standard output. -/
  | console
  /-- The terminal, which is not there. -/
  | terminal
  deriving DecidableEq

namespace Device

/-- The device of a given name. The standard input is empty, and what is written
to the standard error is lost. -/
def ofName? (name : String) : Option Device :=
  match name with
  | "null" | "stdin" | "stderr" => some null
  | "zero" | "random" | "urandom" => some endless
  | "full" => some full
  | "stdout" => some console
  | "tty" => some terminal
  | _ => none

/-- Why the device cannot be opened, if it cannot. -/
def fault? : Device → Option AccessFault
  | terminal => some noSuchDevice
  | _ => none

/-- What is read from the device; of what has no end, the first byte. -/
def contents : Device → List UInt8
  | endless | full => [0]
  | null | console | terminal => []

end Device

end NwScript.CommandLine
