/-
# Refusals of the operating system

The reasons for which files and devices cannot be used, with the texts and the
codes that the system gives them.
-/

import NwScript.Error

namespace NwScript.CommandLine

/-- The fault of a file that is not there. -/
def noSuchFile : AccessFault := .refused "No such file or directory" 2

/-- The fault of a device that is not there. -/
def noSuchDevice : AccessFault := .refused "No such device or address" 6

/-- The fault of a file that is used like a directory. -/
def notDirectory : AccessFault := .refused "Not a directory" 20

/-- The fault of a directory that is used like a file. -/
def isDirectory : AccessFault := .refused "Is a directory" 21

/-- The fault of a device without room. -/
def noRoom : AccessFault := .refused "No space left on device" 28

/-- The fault of a name or a path that is longer than any can be. -/
def nameTooLong : AccessFault := .refused "File name too long" 36

end NwScript.CommandLine
