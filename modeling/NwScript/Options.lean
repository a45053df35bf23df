/-
# What to write

The four forms a script can be written in, and the options of a rendering.
-/

namespace NwScript

/-- The forms in which a script can be written. -/
inductive OutputFormat
  | listing
  | assembly
  | dot
  | nss
  deriving DecidableEq

/-- The name of a form, as dumps and reports spell it. -/
def OutputFormat.name : OutputFormat → String
  | listing => "Listing"
  | assembly => "Assembly"
  | dot => "Dot"
  | nss => "Nss"

/-- The two linear forms: a listing shows addresses and raw bytes, an assembly
only the mnemonics. -/
inductive LinearStyle
  | listing
  | assembly
  deriving DecidableEq

/-- The name of a linear form, as reports spell it. -/
def LinearStyle.name : LinearStyle → String
  | listing => "Listing"
  | assembly => "Assembly"

/-- What a caller asks for: a form, and two refinements of which each concerns
some of the forms. -/
structure RenderOptions where
  format : OutputFormat := .listing
  /-- Show the stack before each instruction of a linear form. -/
  printStack : Bool := false
  /-- Tag the nodes of a graph with the control structures of their block. -/
  printControlTypes : Bool := false
  deriving DecidableEq

end NwScript
