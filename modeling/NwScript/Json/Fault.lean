/-
# What can be wrong with a JSON text

A text that is read as a value of some type can fail in three ways, and a
caller may treat them differently: a text that was cut short may still be
completed, the other two may not.
-/

namespace NwScript.Json

/-- Why a JSON text could not be read as a value of the wanted type. -/
inductive Fault
  /-- The text is not JSON. -/
  | malformed
  /-- The text is JSON so far, but of another shape than the type has. -/
  | mistyped
  /-- The text ended before the value did. -/
  | truncated
  deriving DecidableEq

end NwScript.Json
