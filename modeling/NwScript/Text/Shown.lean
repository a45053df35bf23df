/-
# Text shown in a message

A file name in a message stands between quotes and is written so that it can be
read off the line: quotes, backslashes and the usual controls have short
escapes, and any other character without a picture of its own is given by its
number.
-/

import NwScript.Text.CodeRanges
import NwScript.Text.PictureTable

namespace NwScript.Text

/-- Whether a character can be read off a line by itself. -/
def hasPicture (c : Char) : Bool :=
  if c.toNat < 0x80 then 0x20 ≤ c.toNat && c.toNat < 0x7F
  else !inRanges unmarkedRanges c.toNat && !inRanges extendingRanges c.toNat

/-- A number in hexadecimal without leading zeros, in small letters. -/
def shortHex (n : Nat) : List Char := Nat.toDigits 16 n

/-- A character given by its number. -/
def numbered (c : Char) : List Char := ['\\', 'u', '\x7b'] ++ shortHex c.toNat ++ ['\x7d']

/-- A character as it is shown in a message. -/
def shownChar (c : Char) : List Char :=
  match c with
  | '"' => ['\\', '"']
  | '\\' => ['\\', '\\']
  | '\n' => ['\\', 'n']
  | '\r' => ['\\', 'r']
  | '\t' => ['\\', 't']
  | '\x00' => ['\\', '0']
  | c => if hasPicture c then [c] else numbered c

/-- A text as it is shown in a message. -/
def shown (text : String) : String :=
  "\"" ++ String.ofList (text.toList.flatMap shownChar) ++ "\""

end NwScript.Text
