/-
# A directory that is only described

Files by name, as a run sees them that works in a directory of its own. What is
put anywhere else is lost, but for what is put to the standard output.
-/

import NwScript.CommandLine.Path
import NwScript.CommandLine.Run

namespace NwScript.CommandLine

/-- The files of a directory and their contents; later entries are hidden by
earlier ones of the same name. -/
structure Directory where
  files : List (String × List UInt8)
  /-- What was written to the standard output by its name. -/
  console : String := ""

namespace Directory

/-- The contents of a file. -/
def find? (d : Directory) (name : String) : Option (List UInt8) := d.files.lookup name

/-- The directory with a file changed or added. -/
def put (d : Directory) (name : String) (content : List UInt8) : Directory :=
  { d with files := (name, content) :: d.files.filter fun entry => entry.1 != name }

/-- The fault of going on from a place that is no directory. -/
def obstacle? (d : Directory) : Spot → Option AccessFault
  | .here | .folder _ | .devices => none
  | .file name => some (if (d.find? name).isSome then notDirectory else noSuchFile)
  | .device _ => some notDirectory
  | .nothing => some noSuchFile

/-- Follow a name. -/
def enter (d : Directory) (spot : Spot) (name : String) : Except AccessFault Spot :=
  match d.obstacle? spot with
  | some fault => .error fault
  | none =>
      if name = "." then .ok spot
      else if name = ".." then .ok spot.parent
      else if nameLimit < name.utf8ByteSize then .error nameTooLong
      else .ok (spot.entry name)

/-- Follow a path. Where it ends in a slash it has to lead to a directory. -/
def locate (d : Directory) (path : String) : Except AccessFault Spot := do
  if pathLimit < path.utf8ByteSize then throw nameTooLong
  let spot ← (names path).foldlM d.enter (Spot.start path)
  match d.obstacle? spot with
  | some fault => if path.endsWith "/" then throw fault else return spot
  | none => return spot

/-- Read a file. A directory can be opened, but nothing can be read from it. -/
def contents (d : Directory) (path : String) : Except Error (List UInt8) :=
  match d.locate path with
  | .error fault => .error (.inaccessible fault)
  | .ok .here | .ok (.folder _) | .ok .devices => .error (.invalidDump .truncated)
  | .ok (.file name) =>
      match d.find? name with
      | some content => .ok content
      | none => .error (.inaccessible noSuchFile)
  | .ok (.device device) =>
      match device.fault? with
      | some fault => .error (.inaccessible fault)
      | none => .ok device.contents
  | .ok .nothing => .error (.inaccessible noSuchFile)

/-- Whether a path asks for a new directory: by a name with a slash behind it. -/
def asksForDirectory (path : String) : Bool :=
  path.endsWith "/" &&
    match (names path).getLast? with
    | some name => name != "." && name != ".."
    | none => false

/-- The directory that a new file would be in. -/
def holder (path : String) : String :=
  let front := "/".intercalate ((names path).dropLast ++ ["."])
  if path.startsWith "/" then "/" ++ front else front

/-- The directory after a file was made or emptied. A file is not made where a
directory is asked for, nor where one is. -/
def create (d : Directory) (path : String) : Except AccessFault Directory := do
  if asksForDirectory path && path.utf8ByteSize ≤ pathLimit then
    let _ ← d.locate (holder path)
    throw isDirectory
  match ← d.locate path with
  | .here | .folder _ | .devices => throw isDirectory
  | .file name => return d.put name []
  | .device device =>
      match device.fault? with
      | some fault => throw fault
      | none => return d
  | .nothing => return d

/-- The directory after a text was put into a file that was made before. -/
def write (d : Directory) (path text : String) : Except AccessFault Directory :=
  match d.locate path with
  | .ok (.file name) => .ok (d.put name (Text.utf8Bytes text))
  | .ok (.device .full) => .error noRoom
  | .ok (.device .console) => .ok { d with console := d.console ++ text }
  | _ => .ok d

/-- A change of the directory that may be refused. -/
def change (step : Directory → Except AccessFault Directory) :
    StateM Directory (Except AccessFault Unit) := do
  match step (← get) with
  | .ok later => do
      set later
      return .ok ()
  | .error fault => return .error fault

/-- The operations on a directory, as changes of its state. -/
def fileSystem : FileSystem (StateM Directory) where
  read path := do return (← get).contents path
  create path := change fun d => d.create path
  write path text := change fun d => d.write path text

/-- Run a command line in a directory: what it leaves behind, with the directory
after it. What was written to the standard output by its name comes out too. -/
def run (d : Directory) (arguments : List String) : Report × Directory :=
  let (report, after) := StateT.run (m := Id) (CommandLine.run fileSystem arguments) d
  ({ report with output := report.output ++ after.console }, after)

end Directory

end NwScript.CommandLine
