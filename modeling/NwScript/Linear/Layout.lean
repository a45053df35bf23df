/-
# Layout of a linear form

How entries become lines in each of the two styles. A listing has columns for
address and bytes and draws a rule where the flow ends; an assembly has neither
and leaves an empty line there.
-/

import NwScript.Linear.Entry
import NwScript.Options

namespace NwScript

namespace LinearStyle

/-- How far a stack box is indented, to stand beside the mnemonics. -/
def boxIndent : LinearStyle → Nat
  | listing => 36
  | assembly => 0

/-- What stands between two flows. -/
def flowEnd : LinearStyle → String
  | listing => "  -------- -------------------------- ---\n"
  | assembly => "\n"

end LinearStyle

namespace StackRow

/-- The ids of the siblings in parentheses, if there are any. -/
def siblingsText (row : StackRow) : String :=
  if row.siblings.isEmpty then ""
  else " (" ++ ",".intercalate (row.siblings.map toString) ++ ")"

/-- The row without the indent of its box. -/
def text (row : StackRow) : String :=
  "; | " ++ Text.padLeft 4 (toString row.slot) ++ " - " ++ Text.padLeft 6 (toString row.id) ++
    ": " ++ Text.padRight 8 row.typeName ++ " (" ++ Text.hex32 row.creator ++ ")" ++
    row.siblingsText

end StackRow

/-- The lines of a stack box: a head with the height of the stack, a row for each
slot, and a foot. -/
def stackBoxLines (rows : List StackRow) : List String :=
  ("; .--- Stack: " ++ Text.padLeft 4 (toString rows.length) ++ " ---") ::
    (rows.map StackRow.text ++ ["; '--- ---------- ---"])

namespace Entry

/-- The line of the label, if the instruction has one. -/
def labelText (entry : Entry) : String :=
  match entry.label, entry.signature with
  | none, _ => ""
  | some label, some signature => label ++ ": ; " ++ signature ++ "\n"
  | some label, none => label ++ ":\n"

/-- The box that shows the stack, if it is to be shown. -/
def stackText (style : LinearStyle) (entry : Entry) : String :=
  match entry.stack with
  | none => ""
  | some rows =>
      String.join ((stackBoxLines rows).map fun line =>
        Text.spaces style.boxIndent ++ line ++ "\n")

/-- The line of the instruction itself. -/
def lineText (style : LinearStyle) (entry : Entry) : String :=
  match style with
  | .listing =>
      "  " ++ Text.hex32 entry.address ++ " " ++ Text.padRight 26 entry.bytes ++ " " ++
        entry.text ++ "\n"
  | .assembly => "  " ++ entry.text ++ "\n"

/-- What follows the instruction where the flow ends. -/
def flowEndText (style : LinearStyle) (entry : Entry) : String :=
  if entry.endsFlow then style.flowEnd else ""

/-- Everything that is written for one instruction. -/
def layout (style : LinearStyle) (entry : Entry) : String :=
  entry.labelText ++ entry.stackText style ++ entry.lineText style ++ entry.flowEndText style

end Entry

end NwScript
