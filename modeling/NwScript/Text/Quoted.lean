/-
# Quoted text

Between double quotes a backslash stands before each quote and each backslash,
so the closing quote is the first one without a backslash before it. `unescape`
is the reader of what `escape` writes; it stops at that closing quote.
-/

namespace NwScript.Text

/-- Put a backslash before each quote and each backslash. -/
def escape : List Char → List Char
  | [] => []
  | '\\' :: rest => '\\' :: '\\' :: escape rest
  | '"' :: rest => '\\' :: '"' :: escape rest
  | c :: rest => c :: escape rest

/-- Read up to the first quote that no backslash escapes: the text before it
and what follows it. Without such a quote nothing is read. -/
def unescape : List Char → Option (List Char × List Char)
  | [] => none
  | '"' :: rest => some ([], rest)
  | '\\' :: c :: rest => (unescape rest).map fun (text, after) => (c :: text, after)
  | ['\\'] => none
  | c :: rest => (unescape rest).map fun (text, after) => (c :: text, after)

/-- The text as it stands between quotes. -/
def quote (text : String) : String := String.ofList (escape text.toList)

end NwScript.Text
