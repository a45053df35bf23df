/-
# Lower case

A text in lower case, by the full mapping of the Unicode Standard: each
character is replaced by itself in lower case, with two exceptions. The capital
I with a dot becomes two characters, so that the dot is not lost, and the
capital sigma takes its final form at the end of a word.
-/

import NwScript.Text.CaseTable
import NwScript.Text.CodeRanges

namespace NwScript.Text

/-- Whether the first character that does not interrupt a word is a cased one. -/
def meetsCased : List Char → Bool
  | [] => false
  | c :: rest =>
      if inRanges caseIgnorableRanges c.toNat then meetsCased rest
      else inRanges casedRanges c.toNat

/-- The lower case of a character, whatever stands around it. -/
def lowerChar (c : Char) : Char :=
  if c.toNat < 0x80 then c.toLower
  else match lowerCaseRanges.find? (CaseRange.holds · c.toNat) with
    | some range => Char.ofNat (Int.toNat (c.toNat + range.offset))
    | none => c

/-- The lower case of a character between the text before it, read backwards,
and the text after it. -/
def lowerInWord (before : List Char) (c : Char) (after : List Char) : List Char :=
  if c = 'Σ' then
    if meetsCased before && !meetsCased after then ['ς'] else ['σ']
  else if c = 'İ' then ['i', '\u0307']
  else [lowerChar c]

/-- Lower the rest of a text, given what was passed, read backwards. -/
def lowerFrom (before : List Char) : List Char → List Char
  | [] => []
  | c :: after => lowerInWord before c after ++ lowerFrom (c :: before) after

/-- The text in lower case. -/
def lowerCase (text : String) : String := String.ofList (lowerFrom [] text.toList)

end NwScript.Text
