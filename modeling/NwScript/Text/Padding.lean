/-
# Columns

Text is brought to the width of a column by spaces. The width counts characters
and is a least width: a text that is wider stays whole.
-/

namespace NwScript.Text

/-- As many spaces. -/
def spaces (count : Nat) : String := String.ofList (List.replicate count ' ')

/-- As many tabulators. -/
def tabs (count : Nat) : String := String.ofList (List.replicate count '\t')

/-- A text at the left end of its column. -/
def padRight (width : Nat) (text : String) : String :=
  text ++ spaces (width - text.length)

/-- A text at the right end of its column. -/
def padLeft (width : Nat) (text : String) : String :=
  spaces (width - text.length) ++ text

end NwScript.Text
