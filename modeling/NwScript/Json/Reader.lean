/-
# Reading JSON texts

The reader takes a text byte by byte and keeps what it is inside of on a stack
of its own, so that deep nesting costs no native stack. Every byte moves it to
another state; the states say what may come next. When a byte fits nowhere, the
reader stops, and the tree it had built so far shows the place.
-/

import NwScript.Json.Tree

namespace NwScript.Json

/-- A container that waits for the value which is being read. What it holds
already is kept with the latest first. -/
inductive Frame
  | items (earlier : List Tree)
  | member (earlier : List (RawString × Tree)) (key : RawString)

/-- Where in a number the reader is. -/
inductive NumberPhase
  | sign
  | zero
  | whole
  | point
  | fraction
  | exponentMark
  | exponentSign
  | exponent
  deriving DecidableEq

/-- A number that is being read. Digits are kept with the latest first. -/
structure PartialNumeral where
  phase : NumberPhase
  negative : Bool := false
  whole : List Nat := []
  fraction : List Nat := []
  exponentNegative : Bool := false
  exponent : List Nat := []

/-- Where in an escape sequence the reader is. -/
inductive Escape
  | outside
  | backslash
  /-- In a unit given by its number, with the bytes read so far, latest first. -/
  | unit (bytes : List UInt8)

/-- What a string will be when it ends. -/
inductive Role
  | value
  | key (earlier : List (RawString × Tree))

/-- What the reader is in the middle of. -/
inductive Mode
  /-- A value must begin. -/
  | value
  /-- An array has begun: its first item or its end must follow. -/
  | firstItem
  /-- An item has ended: a comma or the end of the array must follow. -/
  | afterItem (earlier : List Tree)
  /-- An object has begun: its first key or its end must follow. -/
  | firstKey
  /-- A comma has been read: a key must follow. -/
  | nextKey (earlier : List (RawString × Tree))
  /-- A key has ended: a colon must follow. -/
  | colon (earlier : List (RawString × Tree)) (key : RawString)
  /-- A member has ended: a comma or the end of the object must follow. -/
  | afterMember (earlier : List (RawString × Tree))
  | string (role : Role) (fragments : List Fragment) (escape : Escape)
  /-- A word has begun: these bytes must follow. -/
  | word (rest : List UInt8) (result : Tree)
  | number (n : PartialNumeral)

/-- The state of the reader. -/
inductive Reader
  | reading (mode : Mode) (frames : List Frame)
  | complete (root : Tree) (trailing : Bool)
  | stopped (root : Tree)

/-- Space, tabulator, line feed and carriage return. -/
def isBlank (b : UInt8) : Bool := b == 0x20 || b == 0x09 || b == 0x0A || b == 0x0D

/-- The value of a decimal digit. -/
def digit? (b : UInt8) : Option Nat :=
  if 0x30 ≤ b && b ≤ 0x39 then some (b.toNat - 0x30) else none

/-- The value of a hexadecimal digit in either case. -/
def hexDigit? (b : UInt8) : Option Nat :=
  if 0x30 ≤ b && b ≤ 0x39 then some (b.toNat - 0x30)
  else if 0x41 ≤ b && b ≤ 0x46 then some (b.toNat - 0x41 + 10)
  else if 0x61 ≤ b && b ≤ 0x66 then some (b.toNat - 0x61 + 10)
  else none

/-- The byte that a short escape stands for. -/
def shortEscape? (b : UInt8) : Option UInt8 :=
  if b = 0x22 || b = 0x5C || b = 0x2F then some b
  else if b = 0x62 then some 0x08
  else if b = 0x66 then some 0x0C
  else if b = 0x6E then some 0x0A
  else if b = 0x72 then some 0x0D
  else if b = 0x74 then some 0x09
  else none

/-- The container around a value in which reading stopped. -/
def Frame.around (inner : Tree) (frame : Frame) : Tree :=
  let close := Close.stopped (inner.skipFault?.getD .malformed)
  match frame with
  | .items earlier => .array (inner :: earlier).reverse close
  | .member earlier key => .object ((key, inner) :: earlier).reverse close

/-- The tree of the whole text when reading stops in the place of a value. -/
def abandon (tree : Tree) (frames : List Frame) : Tree := frames.foldl Frame.around tree

namespace PartialNumeral

/-- The number, once no digit can follow. -/
def numeral (n : PartialNumeral) : Numeral where
  negative := n.negative
  whole := n.whole.reverse
  fraction := n.fraction.reverse
  exponent :=
    if n.exponent.isEmpty then none else some (n.exponentNegative, n.exponent.reverse)

/-- Whether the number may end here. -/
def mayEnd (n : PartialNumeral) : Bool :=
  match n.phase with
  | .zero | .whole | .fraction | .exponent => true
  | .sign | .point | .exponentMark | .exponentSign => false

/-- Whether the number ends before a byte that cannot be part of it. No digit
follows a leading zero. -/
def endsBefore (n : PartialNumeral) (b : UInt8) : Bool :=
  n.mayEnd && !(n.phase == .zero && (digit? b).isSome)

/-- The number with one byte more, if the byte can be part of it. -/
def extend? (n : PartialNumeral) (b : UInt8) : Option PartialNumeral :=
  match n.phase, digit? b with
  | .sign, some 0 => some { n with phase := .zero, whole := [0] }
  | .sign, some d | .whole, some d => some { n with phase := .whole, whole := d :: n.whole }
  | .point, some d | .fraction, some d =>
      some { n with phase := .fraction, fraction := d :: n.fraction }
  | .exponentMark, some d | .exponentSign, some d | .exponent, some d =>
      some { n with phase := .exponent, exponent := d :: n.exponent }
  | .exponentMark, none =>
      if b = 0x2B then some { n with phase := .exponentSign }
      else if b = 0x2D then some { n with phase := .exponentSign, exponentNegative := true }
      else none
  | .zero, none | .whole, none | .fraction, none =>
      if b = 0x65 || b = 0x45 then some { n with phase := .exponentMark }
      else if b = 0x2E && n.phase != .fraction then some { n with phase := .point }
      else none
  | _, _ => none

end PartialNumeral

namespace Reader

/-- The state before the first byte. -/
def start : Reader := .reading .value []

/-- Stop, with a tree in the place of a value. -/
def stop (tree : Tree) (frames : List Frame) : Reader := .stopped (abandon tree frames)

/-- Hand a complete value to the container that waits for it. -/
def deliver (tree : Tree) : List Frame → Reader
  | [] => .complete tree false
  | .items earlier :: frames => .reading (.afterItem (tree :: earlier)) frames
  | .member earlier key :: frames => .reading (.afterMember ((key, tree) :: earlier)) frames

/-- Take the first byte of a value. -/
def beginValue (b : UInt8) (frames : List Frame) : Reader :=
  if b = 0x22 then .reading (.string .value [] .outside) frames
  else if b = 0x5B then .reading .firstItem frames
  else if b = 0x7B then .reading .firstKey frames
  else if b = 0x2D then .reading (.number { phase := .sign, negative := true }) frames
  else if b = 0x6E then .reading (.word [0x75, 0x6C, 0x6C] .null) frames
  else if b = 0x74 then .reading (.word [0x72, 0x75, 0x65] (.bool true)) frames
  else if b = 0x66 then .reading (.word [0x61, 0x6C, 0x73, 0x65] (.bool false)) frames
  else
    match PartialNumeral.extend? { phase := .sign } b with
    | some n => .reading (.number n) frames
    | none => stop .unexpected frames

/-- End a string that lies in a given role. -/
def endString (role : Role) (fragments : List Fragment) (frames : List Frame) : Reader :=
  let s : RawString := ⟨fragments.reverse, none⟩
  match role with
  | .value => deliver (.string s) frames
  | .key earlier => .reading (.colon earlier s) frames

/-- Stop within a string. -/
def breakString (role : Role) (fragments : List Fragment) (fault : Fault)
    (frames : List Frame) : Reader :=
  let s : RawString := ⟨fragments.reverse, some fault⟩
  match role with
  | .value => stop (.string s) frames
  | .key earlier => stop (.object ((s, .absent) :: earlier).reverse (.stopped fault)) frames

/-- Take a byte within a string. -/
def stepString (role : Role) (fragments : List Fragment) (escape : Escape) (b : UInt8)
    (frames : List Frame) : Reader :=
  match escape with
  | .outside =>
      if b = 0x22 then endString role fragments frames
      else if b = 0x5C then .reading (.string role fragments .backslash) frames
      else if b < 0x20 then breakString role fragments .malformed frames
      else .reading (.string role (.byte b :: fragments) .outside) frames
  | .backslash =>
      if b = 0x75 then .reading (.string role fragments (.unit [])) frames
      else
        match shortEscape? b with
        | some c => .reading (.string role (.byte c :: fragments) .outside) frames
        | none => breakString role fragments .malformed frames
  | .unit bytes =>
      if bytes.length < 3 then .reading (.string role fragments (.unit (b :: bytes))) frames
      else
        match (b :: bytes).reverse.mapM hexDigit? with
        | some digits =>
            let code := digits.foldl (fun n d => n * 16 + d) 0
            .reading (.string role (.unit code :: fragments) .outside) frames
        | none => breakString role fragments .malformed frames

/-- Take a byte between the parts of a container, or after the last value. -/
def stepBetween (mode : Mode) (b : UInt8) (frames : List Frame) : Reader :=
  if isBlank b then .reading mode frames
  else
    match mode with
    | .firstItem =>
        if b = 0x5D then deliver (.array [] .closed) frames
        else beginValue b (.items [] :: frames)
    | .afterItem earlier =>
        if b = 0x2C then .reading .value (.items earlier :: frames)
        else if b = 0x5D then deliver (.array earlier.reverse .closed) frames
        else stop (.array earlier.reverse (.stopped .malformed)) frames
    | .firstKey =>
        if b = 0x7D then deliver (.object [] .closed) frames
        else if b = 0x22 then .reading (.string (.key []) [] .outside) frames
        else stop (.object [] (.stopped .malformed)) frames
    | .nextKey earlier =>
        if b = 0x22 then .reading (.string (.key earlier) [] .outside) frames
        else stop (.object earlier.reverse (.dangling .malformed)) frames
    | .colon earlier key =>
        if b = 0x3A then .reading .value (.member earlier key :: frames)
        else stop (.object ((key, .unexpected) :: earlier).reverse (.stopped .malformed)) frames
    | .afterMember earlier =>
        if b = 0x2C then .reading (.nextKey earlier) frames
        else if b = 0x7D then deliver (.object earlier.reverse .closed) frames
        else stop (.object earlier.reverse (.stopped .malformed)) frames
    | _ => beginValue b frames

/-- Take a byte where no string, word or number is being read. -/
def stepOutside (reader : Reader) (b : UInt8) : Reader :=
  match reader with
  | .reading mode frames => stepBetween mode b frames
  | .complete root trailing => .complete root (trailing || !isBlank b)
  | .stopped root => .stopped root

/-- Take one byte. The byte behind a number is not part of it, so it is taken
again once the number has been handed on. -/
def step (reader : Reader) (b : UInt8) : Reader :=
  match reader with
  | .reading (.string role fragments escape) frames => stepString role fragments escape b frames
  | .reading (.word (expected :: rest) result) frames =>
      if b ≠ expected then stop .unexpected frames
      else if rest.isEmpty then deliver result frames
      else .reading (.word rest result) frames
  | .reading (.number n) frames =>
      match n.extend? b with
      | some longer => .reading (.number longer) frames
      | none =>
          if n.endsBefore b then (deliver (.number n.numeral) frames).stepOutside b
          else stop .unexpected frames
  | other => other.stepOutside b

/-- What was read when the text ends within a value. -/
def cutOff (mode : Mode) : Tree :=
  match mode with
  | .value => .absent
  | .firstItem => .array [] (.stopped .truncated)
  | .afterItem earlier => .array earlier.reverse (.stopped .truncated)
  | .firstKey => .object [] (.stopped .truncated)
  | .nextKey earlier => .object earlier.reverse (.dangling .truncated)
  | .colon earlier key => .object ((key, .absent) :: earlier).reverse (.stopped .truncated)
  | .afterMember earlier => .object earlier.reverse (.stopped .truncated)
  | .string .value fragments _ => .string ⟨fragments.reverse, some .truncated⟩
  | .string (.key earlier) fragments _ =>
      .object ((⟨fragments.reverse, some .truncated⟩, .absent) :: earlier).reverse
        (.stopped .truncated)
  | .word .. => .cutWord
  | .number _ => .cutNumber

/-- The end of the text completes a number that may end there. -/
def endNumber (reader : Reader) : Reader :=
  match reader with
  | .reading (.number n) frames =>
      if n.mayEnd then deliver (.number n.numeral) frames else reader
  | other => other

/-- What was read, once the text has ended. -/
def finish (reader : Reader) : Document :=
  match reader.endNumber with
  | .complete root trailing => ⟨root, trailing⟩
  | .stopped root => ⟨root, false⟩
  | .reading mode frames => ⟨abandon (cutOff mode) frames, false⟩

end Reader

/-- Read a text given by its bytes. -/
def read (bytes : List UInt8) : Document := (bytes.foldl Reader.step .start).finish

end NwScript.Json
