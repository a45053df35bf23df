/-
# Paths

A path is followed name by name, from the root or from the directory that a run
works in. That directory stands two levels below the root; it holds files and no
other directories. Of what is around it only the devices are described, and
which directories there are.
-/

import NwScript.CommandLine.Device

namespace NwScript.CommandLine

/-- How many bytes a name may have. -/
def nameLimit : Nat := 255

/-- How many bytes a path may have. -/
def pathLimit : Nat := 4095

/-- The names along a path; empty parts lead nowhere else. -/
def names (path : String) : List String := (path.splitOn "/").filter (· != "")

/-- Where a walk along a path stands. -/
inductive Spot
  /-- At the described directory. -/
  | here
  /-- At another directory, so many levels below the root. -/
  | folder (depth : Nat)
  /-- At the directory of the devices. -/
  | devices
  /-- At a file of the described directory, whether it is there or not. -/
  | file (name : String)
  /-- At a device. -/
  | device (device : Device)
  /-- At a name in another directory, with nothing there. -/
  | nothing
  deriving DecidableEq

namespace Spot

/-- Where a walk along a path begins. -/
def start (path : String) : Spot := if path.startsWith "/" then folder 0 else here

/-- The directories right below the root, apart from that of the devices. -/
def systemFolders : List String :=
  ["bin", "boot", "etc", "home", "lib", "lib64", "media", "mnt", "opt", "proc", "root", "run",
    "sbin", "srv", "sys", "tmp", "usr", "var"]

/-- The directory that a directory is in; the root is in itself. -/
def parent : Spot → Spot
  | here => folder 1
  | devices => folder 0
  | folder depth => folder (depth - 1)
  | other => other

/-- What a name stands for in a directory. -/
def entry (name : String) : Spot → Spot
  | here => file name
  | devices => ((Device.ofName? name).map device).getD nothing
  | folder 0 =>
      if name = "dev" then devices
      else if name ∈ systemFolders then folder 1
      else nothing
  | _ => nothing

end Spot

end NwScript.CommandLine
