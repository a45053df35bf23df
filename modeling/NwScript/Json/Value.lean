/-
# JSON values

What the library writes as JSON: values without fractions, on one line without
blanks. Only quotes, backslashes and control characters are escaped, by a letter
where there is one for them and by their number else; all other characters stand
for themselves.
-/

namespace NwScript.Json

/-- A JSON value whose numbers are integers. Objects keep the order of their
members. -/
inductive Value
  | null
  | bool (value : Bool)
  | number (value : Int)
  | string (value : String)
  | array (items : List Value)
  | object (members : List (String × Value))

/-- What stands for a character behind a backslash, if it has a short escape. -/
def escapeLetter? (c : Char) : Option Char :=
  if c = '"' || c = '\\' then some c
  else if c = '\x08' then some 'b'
  else if c = '\t' then some 't'
  else if c = '\n' then some 'n'
  else if c = '\x0C' then some 'f'
  else if c = '\r' then some 'r'
  else none

/-- A character as it stands in a string. -/
def escapeChar (c : Char) : List Char :=
  match escapeLetter? c with
  | some letter => ['\\', letter]
  | none =>
      if c.toNat < 0x20 then
        ['\\', 'u', '0', '0', Nat.digitChar (c.toNat / 16), Nat.digitChar (c.toNat % 16)]
      else [c]

/-- A string between its quotes. -/
def quoted (text : String) : String :=
  "\"" ++ String.ofList (text.toList.flatMap escapeChar) ++ "\""

mutual

/-- The text of a value. -/
def Value.text : Value → String
  | .null => "null"
  | .bool value => if value then "true" else "false"
  | .number value => toString value
  | .string value => quoted value
  | .array items => "[" ++ ",".intercalate (itemTexts items) ++ "]"
  | .object members => "\x7b" ++ ",".intercalate (memberTexts members) ++ "\x7d"

/-- The texts of the items of an array. -/
def itemTexts : List Value → List String
  | [] => []
  | item :: rest => item.text :: itemTexts rest

/-- The texts of the members of an object. -/
def memberTexts : List (String × Value) → List String
  | [] => []
  | (key, value) :: rest => (quoted key ++ ":" ++ value.text) :: memberTexts rest

end

/-- A value that may be missing, with `null` in its place. -/
def Value.ofOption {α : Type} (value : α → Value) : Option α → Value
  | none => .null
  | some x => value x

end NwScript.Json
