/-
# The reader takes nothing but spellings

The reader takes every spelling of a value for the value; here is the converse: what it
reads without a fault is spelled by the text. The bytes that have been taken determine
what the reader is in the middle of, and of each of its states it can be said, by the
grammar alone, which bytes may lie behind it. Every byte keeps this true, and at the end
it says that the text spells the tree, unless the tree has a fault or something follows it.
-/

import NwScript.Proofs.Json.Acceptance
import NwScript.Proofs.Json.Prefixes

namespace NwScript.Json

/-- The bytes that lie behind the reader before the string that it is within. -/
inductive Role.Behind : Role → List UInt8 → Prop
  | value : Behind .value []
  | key {earlier : List (RawString × Tree)} {opening : List UInt8}
      (h : OpenObject earlier opening) : Behind (.key earlier) opening

/-- The bytes that may lie behind the reader within the innermost value that has begun. -/
inductive Mode.Behind : Mode → List UInt8 → Prop
  | value : Behind .value []
  | firstItem {blanks : List UInt8} (h : Blank blanks) : Behind .firstItem (0x5B :: blanks)
  | afterItem {earlier : List Tree} {bytes : List UInt8} (h : SpellsItems earlier.reverse bytes) :
      Behind (.afterItem earlier) (0x5B :: bytes)
  | firstKey {blanks : List UInt8} (h : Blank blanks) : Behind .firstKey (0x7B :: blanks)
  | nextKey {earlier : List (RawString × Tree)} {opening : List UInt8}
      (h : OpenObject earlier opening) : Behind (.nextKey earlier) opening
  | colon {earlier : List (RawString × Tree)} {key : RawString} {opening bytes after : List UInt8}
      (h : OpenObject earlier opening) (hkey : key.Spells bytes) (hafter : Blank after) :
      Behind (.colon earlier key) (opening ++ bytes ++ after)
  | afterMember {earlier : List (RawString × Tree)} {bytes : List UInt8}
      (h : SpellsMembers earlier.reverse bytes) : Behind (.afterMember earlier) (0x7B :: bytes)
  | string {role : Role} {fragments : List Fragment} {escape : Escape}
      {opening bytes begun : List UInt8} (hrole : role.Behind opening)
      (h : SpellsFragments fragments.reverse bytes) (hescape : escape.Behind begun) :
      Behind (.string role fragments escape) (opening ++ 0x22 :: bytes ++ begun)
  | word {done rest : List UInt8} {result : Tree} (more : rest ≠ [])
      (h : result.Spells (done ++ rest)) : Behind (.word rest result) done
  | number {n : PartialNumeral} {bytes : List UInt8} (h : n.Behind bytes) :
      Behind (.number n) bytes

/-- A string begins. -/
theorem Mode.Behind.beginString {role : Role} {opening : List UInt8} (h : role.Behind opening) :
    (Mode.string role [] .outside).Behind (opening ++ [0x22]) := by
  have empty : SpellsFragments [].reverse [] := .nil
  simpa only [List.append_nil] using Mode.Behind.string h empty .outside

/-- The bytes that may lie behind the reader in front of the innermost value. -/
inductive FramesBehind : List Frame → List UInt8 → Prop
  | nil : FramesBehind [] []
  | items {frames : List Frame} {earlier : List Tree} {outer blanks opening : List UInt8}
      (houter : FramesBehind frames outer) (blank : Blank blanks) (h : OpenArray earlier opening) :
      FramesBehind (.items earlier :: frames) (outer ++ blanks ++ opening)
  | member {frames : List Frame} {earlier : List (RawString × Tree)} {key : RawString}
      {outer blanks opening bytes after : List UInt8} (houter : FramesBehind frames outer)
      (blank : Blank blanks) (h : OpenObject earlier opening) (hkey : key.Spells bytes)
      (hafter : Blank after) :
      FramesBehind (.member earlier key :: frames)
        (outer ++ blanks ++ (opening ++ bytes ++ after ++ [0x3A]))

/-- The bytes that may lie behind the reader. -/
inductive Reader.Behind : Reader → List UInt8 → Prop
  | reading {mode : Mode} {frames : List Frame} {outer blanks inner : List UInt8}
      (houter : FramesBehind frames outer) (blank : Blank blanks) (h : mode.Behind inner) :
      Behind (.reading mode frames) (outer ++ blanks ++ inner)
  | complete {root : Tree} {bytes : List UInt8} (h : root.Spells bytes) :
      Behind (.complete root false) bytes
  | trailing {root : Tree} {bytes : List UInt8} : Behind (.complete root true) bytes
  | stopped {root : Tree} {bytes : List UInt8} (fault : root.skipFault? ≠ none) :
      Behind (.stopped root) bytes

/-- A tree around one with a fault has a fault. -/
theorem skipFault?_abandon {tree : Tree} (fault : tree.skipFault? ≠ none) (frames : List Frame) :
    (abandon tree frames).skipFault? ≠ none := by
  induction frames generalizing tree with
  | nil => exact fault
  | cons frame frames ih => exact ih (by cases frame <;> exact Option.some_ne_none _)

namespace Reader.Behind

variable {frames : List Frame} {mode : Mode} {outer blanks inner bytes : List UInt8} {b : UInt8}

/-- The reader stops where the tree has a fault. -/
theorem stop {tree : Tree} (fault : tree.skipFault? ≠ none) (frames : List Frame)
    (bytes : List UInt8) : (stop tree frames).Behind bytes :=
  .stopped (skipFault?_abandon fault frames)

/-- Something more lies behind the innermost value. -/
theorem next (houter : FramesBehind frames outer) (blank : Blank blanks)
    (h : mode.Behind (inner ++ [b])) :
    (Reader.reading mode frames).Behind (outer ++ blanks ++ inner ++ [b]) := by
  rw [List.append_assoc]
  exact .reading houter blank h

/-- A value is handed on. -/
theorem deliver {tree : Tree} (houter : FramesBehind frames outer) (blank : Blank blanks)
    (h : tree.Spells inner) : (deliver tree frames).Behind (outer ++ blanks ++ inner) := by
  have padded : tree.Spells (blanks ++ inner) := by
    simpa only [List.append_nil] using Tree.Spells.padded blank h .nil
  rw [List.append_assoc]
  cases houter with
  | nil => exact .complete padded
  | items houter before opened =>
      obtain ⟨rest, hrest, items⟩ := opened.concat padded
      rw [List.append_assoc, hrest]
      exact .reading houter before (.afterItem items)
  | member houter before opened hkey hafter =>
      obtain ⟨rest, hrest, members⟩ := opened.concat hkey hafter padded
      rw [List.append_assoc, List.append_assoc _ [0x3A], List.singleton_append, hrest]
      exact .reading houter before (.afterMember members)

/-- A value begins. -/
theorem beginValue (houter : FramesBehind frames outer) (blank : Blank blanks) (b : UInt8) :
    (beginValue b frames).Behind (outer ++ blanks ++ [b]) := by
  unfold Reader.beginValue
  split_ifs with hquote harray hobject hminus hnull htrue hfalse
  · subst hquote
    exact .reading houter blank (.beginString .value)
  · subst harray
    exact .reading houter blank (.firstItem .nil)
  · subst hobject
    exact .reading houter blank (.firstKey .nil)
  · subst hminus
    exact .reading houter blank (.number .sign)
  · subst hnull
    exact .reading houter blank (.word nofun .nullWord)
  · subst htrue
    exact .reading houter blank (.word nofun .trueWord)
  · subst hfalse
    exact .reading houter blank (.word nofun .falseWord)
  · split
    · next n hn => exact .reading houter blank (.number (PartialNumeral.Behind.sign.extend hn))
    · exact .stop (by nofun) _ _

/-- A string ends. -/
theorem endString {role : Role} {opening : List UInt8} {fragments : List Fragment}
    (houter : FramesBehind frames outer) (blank : Blank blanks) (hrole : role.Behind opening)
    (h : SpellsFragments fragments.reverse bytes) :
    (endString role fragments frames).Behind
      (outer ++ blanks ++ (opening ++ 0x22 :: bytes) ++ [0x22]) := by
  have spelled : RawString.Spells ⟨fragments.reverse, none⟩ (0x22 :: (bytes ++ [0x22])) := .mk h
  rw [List.append_assoc, List.append_assoc opening, List.cons_append]
  cases hrole with
  | value => exact .deliver houter blank (.string spelled)
  | @key earlier _ opened =>
      have behind := Mode.Behind.colon opened spelled .nil
      rw [List.append_nil] at behind
      exact .reading houter blank behind

/-- Within a string the next part has been taken. -/
theorem nextFragment {role : Role} {fragments : List Fragment} {fragment : Fragment}
    {opening begun taken : List UInt8} (houter : FramesBehind frames outer) (blank : Blank blanks)
    (hrole : role.Behind opening) (h : SpellsFragments fragments.reverse bytes)
    (hlast : fragment.Spells taken) (htaken : begun ++ [b] = taken) :
    (Reader.reading (.string role (fragment :: fragments) .outside) frames).Behind
      (outer ++ blanks ++ (opening ++ 0x22 :: bytes ++ begun) ++ [b]) := by
  subst htaken
  refine .next houter blank ?_
  have longer : SpellsFragments (fragment :: fragments).reverse (bytes ++ (begun ++ [b])) := by
    rw [List.reverse_cons]
    exact h.concat hlast
  simpa using Mode.Behind.string hrole longer .outside

/-- Within a string the reader goes on, ends the string or stops. -/
theorem stepString {role : Role} {fragments : List Fragment} {escape : Escape}
    {opening begun : List UInt8} (houter : FramesBehind frames outer) (blank : Blank blanks)
    (hrole : role.Behind opening) (h : SpellsFragments fragments.reverse bytes)
    (hescape : escape.Behind begun) (b : UInt8) :
    (stepString role fragments escape b frames).Behind
      (outer ++ blanks ++ (opening ++ 0x22 :: bytes ++ begun) ++ [b]) := by
  have stops (fault : Fault) (bytes : List UInt8) :
      (breakString role fragments fault frames).Behind bytes := by
    cases role <;> exact .stop (by nofun) _ _
  have escapes {escape : Escape} (behind : escape.Behind (begun ++ [b])) :
      (Reader.reading (.string role fragments escape) frames).Behind
        (outer ++ blanks ++ (opening ++ 0x22 :: bytes ++ begun) ++ [b]) := by
    refine .next houter blank ?_
    rw [List.append_assoc]
    exact .string hrole h behind
  unfold Reader.stepString
  cases hescape with
  | outside =>
      simp only
      split_ifs with hquote hescape hcontrol
      · subst hquote
        rw [List.append_nil]
        exact .endString houter blank hrole h
      · subst hescape
        exact escapes .backslash
      · exact stops _ _
      · have plain : Fragment.Spells (.byte b) [b] :=
          .plain (UInt8.not_lt.mp hcontrol) hquote hescape
        exact .nextFragment houter blank hrole h plain rfl
  | backslash =>
      simp only
      split_ifs with hunit
      · subst hunit
        exact escapes (@Escape.Behind.unit [] (by decide))
      · split
        · next c hc => exact .nextFragment houter blank hrole h (.short hc) rfl
        · exact stops _ _
  | @unit taken short =>
      simp only
      split_ifs with hmore
      · have longer : Escape.Behind (.unit (b :: taken)) (0x5C :: 0x75 :: (b :: taken).reverse) :=
          .unit hmore
        rw [List.reverse_cons] at longer
        exact escapes longer
      · split
        · next digits hdigits =>
            obtain ⟨c, d, e, rfl⟩ := List.length_eq_three.mp (by omega : taken.length = 3)
            exact .nextFragment houter blank hrole h (.unit hdigits) rfl
        · exact stops _ _

/-- In front of a value there may be blanks. -/
theorem stepValue (houter : FramesBehind frames outer) (blank : Blank blanks) (b : UInt8) :
    (stepBetween .value b frames).Behind (outer ++ blanks ++ [] ++ [b]) := by
  rw [List.append_nil]
  unfold stepBetween
  by_cases hb : isBlank b = true
  · rw [if_pos hb, List.append_assoc, ← List.append_nil (outer ++ _)]
    exact .reading houter (blank.concat hb) .value
  · rw [if_neg hb]
    exact .beginValue houter blank b

/-- An array has begun: it ends, or its first item begins. -/
theorem stepFirstItem {inside : List UInt8} (houter : FramesBehind frames outer)
    (blank : Blank blanks) (h : Blank inside) (b : UInt8) :
    (stepBetween .firstItem b frames).Behind (outer ++ blanks ++ 0x5B :: inside ++ [b]) := by
  unfold stepBetween
  by_cases hb : isBlank b = true
  · rw [if_pos hb]
    exact .next houter blank (.firstItem (h.concat hb))
  · rw [if_neg hb]
    simp only
    split_ifs with hend
    · subst hend
      rw [List.append_assoc]
      exact .deliver houter blank (.emptyArray h)
    · rw [← List.append_nil (_ ++ 0x5B :: inside)]
      exact .beginValue (.items houter blank (.first h)) .nil b

/-- An item has ended: another one follows, the array ends, or the reader stops. -/
theorem stepAfterItem {earlier : List Tree} (houter : FramesBehind frames outer)
    (blank : Blank blanks) (h : SpellsItems earlier.reverse bytes) (b : UInt8) :
    (stepBetween (.afterItem earlier) b frames).Behind
      (outer ++ blanks ++ 0x5B :: bytes ++ [b]) := by
  unfold stepBetween
  by_cases hb : isBlank b = true
  · rw [if_pos hb]
    exact .next houter blank (.afterItem (h.concat_blank hb))
  · rw [if_neg hb]
    simp only
    split_ifs with hcomma hend
    · subst hcomma
      have opened : FramesBehind (.items earlier :: frames)
          (outer ++ blanks ++ 0x5B :: (bytes ++ [0x2C])) := .items houter blank (.next h)
      simpa using Behind.reading opened .nil .value
    · subst hend
      rw [List.append_assoc]
      exact .deliver houter blank (.array h)
    · exact .stop (by nofun) _ _

/-- An object has begun: it ends, its first key begins, or the reader stops. -/
theorem stepFirstKey {inside : List UInt8} (houter : FramesBehind frames outer)
    (blank : Blank blanks) (h : Blank inside) (b : UInt8) :
    (stepBetween .firstKey b frames).Behind (outer ++ blanks ++ 0x7B :: inside ++ [b]) := by
  unfold stepBetween
  by_cases hb : isBlank b = true
  · rw [if_pos hb]
    exact .next houter blank (.firstKey (h.concat hb))
  · rw [if_neg hb]
    simp only
    split_ifs with hend hquote
    · subst hend
      rw [List.append_assoc]
      exact .deliver houter blank (.emptyObject h)
    · subst hquote
      exact .next houter blank (.beginString (.key (.first h)))
    · exact .stop (by nofun) _ _

/-- A comma has been taken: a key begins, or the reader stops. -/
theorem stepNextKey {earlier : List (RawString × Tree)} (houter : FramesBehind frames outer)
    (blank : Blank blanks) (h : OpenObject earlier inner) (b : UInt8) :
    (stepBetween (.nextKey earlier) b frames).Behind (outer ++ blanks ++ inner ++ [b]) := by
  unfold stepBetween
  by_cases hb : isBlank b = true
  · rw [if_pos hb]
    exact .next houter blank (.nextKey (h.concat_blank hb))
  · rw [if_neg hb]
    simp only
    split_ifs with hquote
    · subst hquote
      exact .next houter blank (.beginString (.key h))
    · exact .stop (by nofun) _ _

/-- A key has ended: its value follows, or the reader stops. -/
theorem stepColon {earlier : List (RawString × Tree)} {key : RawString} {opening after : List UInt8}
    (houter : FramesBehind frames outer) (blank : Blank blanks) (h : OpenObject earlier opening)
    (hkey : key.Spells bytes) (hafter : Blank after) (b : UInt8) :
    (stepBetween (.colon earlier key) b frames).Behind
      (outer ++ blanks ++ (opening ++ bytes ++ after) ++ [b]) := by
  unfold stepBetween
  by_cases hb : isBlank b = true
  · rw [if_pos hb]
    refine .next houter blank ?_
    rw [List.append_assoc]
    exact .colon h hkey (hafter.concat hb)
  · rw [if_neg hb]
    simp only
    split_ifs with hcolon
    · subst hcolon
      have opened := FramesBehind.member houter blank h hkey hafter
      simpa using Behind.reading opened .nil .value
    · exact .stop (by nofun) _ _

/-- A member has ended: another one follows, the object ends, or the reader stops. -/
theorem stepAfterMember {earlier : List (RawString × Tree)} (houter : FramesBehind frames outer)
    (blank : Blank blanks) (h : SpellsMembers earlier.reverse bytes) (b : UInt8) :
    (stepBetween (.afterMember earlier) b frames).Behind
      (outer ++ blanks ++ 0x7B :: bytes ++ [b]) := by
  unfold stepBetween
  by_cases hb : isBlank b = true
  · rw [if_pos hb]
    exact .next houter blank (.afterMember (h.concat_blank hb))
  · rw [if_neg hb]
    simp only
    split_ifs with hcomma hend
    · subst hcomma
      exact .next houter blank (.nextKey (.next h .nil))
    · subst hend
      rw [List.append_assoc]
      exact .deliver houter blank (.object h)
    · exact .stop (by nofun) _ _

/-- The next byte of a word has been taken, or the reader stops. -/
theorem stepWord {expected : UInt8} {rest : List UInt8} {result : Tree}
    (houter : FramesBehind frames outer) (blank : Blank blanks)
    (h : result.Spells (inner ++ expected :: rest)) (b : UInt8) :
    (step (.reading (.word (expected :: rest) result) frames) b).Behind
      (outer ++ blanks ++ inner ++ [b]) := by
  rw [step]
  split_ifs with hother hlast
  · exact .stop (by nofun) _ _
  · obtain rfl := not_ne_iff.mp hother
    obtain rfl := List.isEmpty_iff.mp hlast
    rw [List.append_assoc]
    exact .deliver houter blank h
  · obtain rfl := not_ne_iff.mp hother
    refine .next houter blank (.word (fun last => hlast (List.isEmpty_iff.mpr last)) ?_)
    rwa [List.append_assoc, List.singleton_append]

/-- After the whole value there may be blanks. -/
theorem stepComplete {root : Tree} (h : root.Spells bytes) (b : UInt8) :
    (stepOutside (.complete root false) b).Behind (bytes ++ [b]) := by
  rw [stepOutside, Bool.false_or]
  cases hb : isBlank b with
  | true => exact .complete (h.concat_blank hb)
  | false => exact .trailing

/-- A value that has been handed on ends before the next byte. -/
theorem stepDelivered {tree : Tree} (houter : FramesBehind frames outer) (blank : Blank blanks)
    (h : tree.Spells inner) (b : UInt8) :
    ((Reader.deliver tree frames).stepOutside b).Behind (outer ++ blanks ++ inner ++ [b]) := by
  have behind := Behind.deliver houter blank h
  generalize outer ++ blanks ++ inner = bytes at behind ⊢
  rcases frames with _ | ⟨_ | _, frames⟩
  · cases behind with
    | complete h => exact .stepComplete h b
  · cases behind with
    | reading houter blank h =>
        cases h with
        | afterItem items => exact .stepAfterItem houter blank items b
  · cases behind with
    | reading houter blank h =>
        cases h with
        | afterMember members => exact .stepAfterMember houter blank members b

/-- Within a number the reader goes on, hands the number on or stops. -/
theorem stepNumber {n : PartialNumeral} (houter : FramesBehind frames outer)
    (blank : Blank blanks) (h : n.Behind inner) (b : UInt8) :
    (step (.reading (.number n) frames) b).Behind (outer ++ blanks ++ inner ++ [b]) := by
  rw [step]
  cases hb : n.extend? b with
  | some longer => exact .next houter blank (.number (h.extend hb))
  | none =>
      simp only
      split_ifs with hend
      · exact .stepDelivered houter blank (.number (h.spells (Bool.and_eq_true_iff.mp hend).1)) b
      · exact .stop (by nofun) _ _

/-- What lies behind the reader is right after every byte. -/
theorem step {reader : Reader} (h : reader.Behind bytes) (b : UInt8) :
    (reader.step b).Behind (bytes ++ [b]) := by
  cases h with
  | complete h => exact .stepComplete h b
  | trailing => exact .trailing
  | stopped fault => exact .stopped fault
  | reading houter blank h =>
      cases h with
      | value => exact .stepValue houter blank b
      | firstItem h => exact .stepFirstItem houter blank h b
      | afterItem h => exact .stepAfterItem houter blank h b
      | firstKey h => exact .stepFirstKey houter blank h b
      | nextKey h => exact .stepNextKey houter blank h b
      | colon h hkey hafter => exact .stepColon houter blank h hkey hafter b
      | afterMember h => exact .stepAfterMember houter blank h b
      | string hrole h hescape => exact .stepString houter blank hrole h hescape b
      | number h => exact .stepNumber houter blank h b
      | @word _ rest _ more h =>
          cases rest with
          | nil => exact absurd rfl more
          | cons expected rest => exact .stepWord houter blank h b

/-- So it is after any number of bytes. -/
theorem run {reader : Reader} (h : reader.Behind bytes) (rest : List UInt8) :
    (rest.foldl Reader.step reader).Behind (bytes ++ rest) := by
  induction rest generalizing reader bytes with
  | nil => rwa [List.append_nil]
  | cons b rest ih =>
      rw [List.foldl_cons, List.append_cons]
      exact ih (h.step b)

/-- The end of the text ends a number. -/
theorem endNumber {reader : Reader} (h : reader.Behind bytes) : reader.endNumber.Behind bytes := by
  rcases reader with ⟨mode, frames⟩ | _ | _
  · cases mode
    case number n =>
      rw [Reader.endNumber]
      split_ifs with hend
      · cases h with
        | reading houter blank h =>
            cases h with
            | number hn => exact .deliver houter blank (.number (hn.spells hend))
      · exact h
    all_goals exact h
  · exact h
  · exact h

end Reader.Behind

/-- Where the text ends within a value there is a fault. -/
theorem skipFault?_cutOff : ∀ mode, (Reader.cutOff mode).skipFault? ≠ none
  | .string role _ _ => by cases role <;> nofun
  | .value | .firstItem | .afterItem _ | .firstKey | .nextKey _ | .colon _ _ | .afterMember _
  | .word _ _ | .number _ => by nofun

/-- What is read without a fault, and has nothing behind it, is spelled by the text. -/
theorem spells_of_read {tree : Tree} {bytes : List UInt8} (h : read bytes = ⟨tree, false⟩)
    (faultless : tree.skipFault? = none) : tree.Spells bytes := by
  have start : Reader.start.Behind [] := .reading .nil .nil .value
  have behind := (start.run bytes).endNumber
  rw [List.nil_append] at behind
  rw [read, Reader.finish] at h
  cases hlast : (bytes.foldl Reader.step .start).endNumber with
  | complete root trailing =>
      rw [hlast] at h behind
      cases h
      cases behind
      assumption
  | stopped root =>
      rw [hlast] at h behind
      cases h
      cases behind
      contradiction
  | reading mode frames =>
      rw [hlast] at h
      cases h
      exact absurd faultless (skipFault?_abandon (skipFault?_cutOff mode) frames)

/-- A value that is spelled has no fault. -/
theorem Tree.Spells.skipFault?_eq_none {tree : Tree} {bytes : List UInt8} :
    tree.Spells bytes → tree.skipFault? = none
  | .padded _ h _ => h.skipFault?_eq_none
  | .string h => by
      cases h
      rfl
  | .nullWord | .trueWord | .falseWord | .number _ | .emptyArray _ | .array _ | .emptyObject _
  | .object _ => rfl

/-- The reader knows the grammar: a text spells a value if and only if it is read as the
value without a fault and nothing follows it. -/
theorem spells_iff {tree : Tree} {bytes : List UInt8} :
    tree.Spells bytes ↔ read bytes = ⟨tree, false⟩ ∧ tree.skipFault? = none :=
  ⟨fun h => ⟨read_of_spells h, h.skipFault?_eq_none⟩, fun h => spells_of_read h.1 h.2⟩

/-- A text spells one value at most. -/
theorem Tree.Spells.unique {tree other : Tree} {bytes : List UInt8} (h : tree.Spells bytes)
    (h' : other.Spells bytes) : tree = other :=
  congrArg Document.root ((read_of_spells h).symm.trans (read_of_spells h'))

end NwScript.Json
