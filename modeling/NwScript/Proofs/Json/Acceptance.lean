/-
# The reader takes every spelling

Whatever the grammar of JSON says a value may be written as, the reader takes it
for that value. While a text is read, a value is complete once the reader has
handed it to the container around it; only a number is still pending then,
because the next byte decides whether it goes on. So the reader is looked at with
its pending number ended, which no byte that can follow a value can tell from
the reader itself.
-/

import NwScript.Proofs.Json.Spelling

namespace NwScript.Json

/-- The bytes that can follow a value. -/
inductive FollowsValue : UInt8 → Prop
  | blank {b : UInt8} (h : isBlank b = true) : FollowsValue b
  | comma : FollowsValue 0x2C
  | endArray : FollowsValue 0x5D
  | endObject : FollowsValue 0x7D

/-- No number goes on with a byte that can follow a value. -/
theorem FollowsValue.endsNumber {b : UInt8} (h : FollowsValue b) (n : PartialNumeral) :
    n.extend? b = none ∧ digit? b = none := by
  have bytes : b = 0x20 ∨ b = 0x09 ∨ b = 0x0A ∨ b = 0x0D ∨ b = 0x2C ∨ b = 0x5D ∨ b = 0x7D := by
    cases h with
    | blank h =>
        simp only [isBlank, Bool.or_eq_true, beq_iff_eq] at h
        rcases h with ((rfl | rfl) | rfl) | rfl <;> simp
    | _ => simp
  rcases n with ⟨phase, -, -, -, -, -⟩
  rcases bytes with rfl | rfl | rfl | rfl | rfl | rfl | rfl <;>
    exact ⟨by cases phase <;> rfl, rfl⟩

namespace Reader

/-- A value that has been handed on leaves no number pending. -/
@[simp]
theorem endNumber_deliver (tree : Tree) (frames : List Frame) :
    (deliver tree frames).endNumber = deliver tree frames := by
  rcases frames with _ | ⟨_ | _, _⟩ <;> rfl

/-- After a value no string, word or number is being read. -/
@[simp]
theorem step_deliver (tree : Tree) (frames : List Frame) (b : UInt8) :
    (deliver tree frames).step b = (deliver tree frames).stepOutside b := by
  rcases frames with _ | ⟨_ | _, _⟩ <;> rfl

/-- A byte that can follow a value ends a pending number. -/
theorem step_endNumber {b : UInt8} (h : FollowsValue b) (reader : Reader) :
    reader.endNumber.step b = reader.step b := by
  rcases reader with ⟨mode, frames⟩ | _ | _
  · cases mode
    case number n =>
      obtain ⟨hextend, hdigit⟩ := h.endsNumber n
      rw [endNumber]
      split
      · next hend =>
          rw [step_deliver]
          simp [step, hextend, PartialNumeral.endsBefore, hend, hdigit]
      · rfl
    all_goals rfl
  · rfl
  · rfl

/-- Blanks change nothing if a single one changes nothing. -/
theorem foldl_blank {reader : Reader} (stays : ∀ b, isBlank b = true → reader.step b = reader)
    {bytes : List UInt8} (h : Blank bytes) : bytes.foldl step reader = reader := by
  induction bytes with
  | nil => rfl
  | cons b rest ih =>
      rw [List.foldl_cons, stays b (h b List.mem_cons_self)]
      exact ih fun c hc => h c (List.mem_cons_of_mem b hc)

/-- Blanks change nothing between the parts of a container. -/
theorem foldl_blank_reading {mode : Mode} {frames : List Frame}
    (between : ∀ b, (reading mode frames).step b = stepBetween mode b frames)
    {bytes : List UInt8} (h : Blank bytes) :
    bytes.foldl step (reading mode frames) = reading mode frames :=
  foldl_blank (fun b hb => by rw [between b]; unfold stepBetween; exact if_pos hb) h

/-- Blanks change nothing after a value. -/
theorem foldl_blank_deliver (tree : Tree) (frames : List Frame) {bytes : List UInt8}
    (h : Blank bytes) : bytes.foldl step (deliver tree frames) = deliver tree frames :=
  foldl_blank
    (fun b hb => by
      rw [step_deliver]
      rcases frames with _ | ⟨_ | _, _⟩ <;> simp [deliver, stepOutside, stepBetween, hb]) h

/-! ## Numbers -/

/-- Digits are taken one by one, as long as each of them can be part of the number. -/
theorem foldl_digitBytes (taking : List Nat → PartialNumeral)
    (extend : ∀ taken d, d < 10 →
      (taking taken).extend? (digitByte d) = some (taking (d :: taken)))
    {digits : List Nat} (h : ∀ d ∈ digits, d < 10) (taken : List Nat) (frames : List Frame) :
    (digitBytes digits).foldl step (.reading (.number (taking taken)) frames) =
      .reading (.number (taking (digits.reverse ++ taken))) frames := by
  induction digits generalizing taken with
  | nil => rfl
  | cons d rest ih =>
      have first : step (.reading (.number (taking taken)) frames) (digitByte d) =
          .reading (.number (taking (d :: taken))) frames := by
        simp only [step, extend taken d (h d List.mem_cons_self)]
      simp only [digitBytes, List.map_cons, List.foldl_cons, first]
      rw [← digitBytes, ih fun e he => h e (List.mem_cons_of_mem d he)]
      simp

/-- The digits before the point, behind the sign. -/
theorem foldl_whole {digits : List Nat} (h : IsWhole digits) (negative : Bool)
    (frames : List Frame) :
    ∃ phase, (phase = .zero ∨ phase = .whole) ∧
      (digitBytes digits).foldl step (.reading (.number { phase := .sign, negative }) frames) =
        .reading (.number { phase, negative, whole := digits.reverse }) frames := by
  rcases digits with _ | ⟨_ | d, rest⟩
  · exact absurd rfl h.nonempty
  · obtain rfl : rest = [] := List.cons.inj (h.leading rfl) |>.2
    exact ⟨.zero, .inl rfl, rfl⟩
  · have hd : d + 1 < 10 := h.small _ List.mem_cons_self
    have first : step (.reading (.number { phase := .sign, negative }) frames)
        (digitByte (d + 1)) =
          .reading (.number { phase := .whole, negative, whole := [d + 1] }) frames := by
      simp only [step, PartialNumeral.extend?, digit?_digitByte hd]
    refine ⟨.whole, .inr rfl, ?_⟩
    rw [digitBytes, List.map_cons, List.foldl_cons, first, ← digitBytes]
    have others := foldl_digitBytes (fun whole => { phase := .whole, negative, whole })
      (fun taken e he => by simp only [PartialNumeral.extend?, digit?_digitByte he])
      (fun e he => h.small e (List.mem_cons_of_mem _ he)) [d + 1] frames
    rw [others, List.reverse_cons]

/-- The fraction, behind the digits before the point. -/
theorem foldl_fraction {phase : NumberPhase} (hphase : phase = .zero ∨ phase = .whole)
    {fraction : List Nat} {bytes : List UInt8} (h : SpellsFraction fraction bytes)
    (negative : Bool) (whole : List Nat) (frames : List Frame) :
    ∃ later, (later = .zero ∨ later = .whole ∨ later = .fraction) ∧
      bytes.foldl step (.reading (.number { phase, negative, whole }) frames) =
        .reading (.number { phase := later, negative, whole, fraction := fraction.reverse })
          frames := by
  cases h with
  | none => exact ⟨phase, by rcases hphase with rfl | rfl <;> simp, rfl⟩
  | some hdigits =>
      -- Behind the point the number may not end before its first digit.
      let taking (taken : List Nat) : PartialNumeral :=
        { phase := if taken.isEmpty then .point else .fraction, negative, whole,
          fraction := taken }
      have point : step (.reading (.number { phase, negative, whole }) frames) 0x2E =
          .reading (.number (taking [])) frames := by
        rcases hphase with rfl | rfl <;> rfl
      have digits := foldl_digitBytes taking
        (fun taken d hd => by cases taken <;> simp [taking, PartialNumeral.extend?,
          digit?_digitByte hd]) hdigits.small [] frames
      refine ⟨.fraction, .inr (.inr rfl), ?_⟩
      rw [List.foldl_cons, point, digits]
      simp [taking, hdigits.nonempty]

/-- The mark of an exponent and its sign, behind the other digits. -/
theorem foldl_mark {phase : NumberPhase}
    (hphase : phase = .zero ∨ phase = .whole ∨ phase = .fraction) {mark : UInt8}
    (hmark : mark = 0x65 ∨ mark = 0x45) {exponentNegative : Bool} {sign : List UInt8}
    (hsign : SpellsExponentSign exponentNegative sign) (negative : Bool)
    (whole fraction : List Nat) (frames : List Frame) :
    ∃ first, (first = .exponentMark ∨ first = .exponentSign) ∧
      (mark :: sign).foldl step (.reading (.number { phase, negative, whole, fraction }) frames) =
        .reading (.number { phase := first, negative, whole, fraction, exponentNegative })
          frames := by
  cases hsign
  case none =>
    refine ⟨.exponentMark, .inl rfl, ?_⟩
    rcases hphase with rfl | rfl | rfl <;> rcases hmark with rfl | rfl <;> rfl
  all_goals
    refine ⟨.exponentSign, .inr rfl, ?_⟩
    rcases hphase with rfl | rfl | rfl <;> rcases hmark with rfl | rfl <;> rfl

/-- The exponent, behind the other digits. -/
theorem foldl_exponent {phase : NumberPhase}
    (hphase : phase = .zero ∨ phase = .whole ∨ phase = .fraction)
    {exponent : Option (Bool × List Nat)} {bytes : List UInt8}
    (h : SpellsExponent exponent bytes) (negative : Bool) (whole fraction : List Nat)
    (frames : List Frame) :
    ∃ p : PartialNumeral, p.mayEnd = true ∧
      p.numeral = ⟨negative, whole.reverse, fraction.reverse, exponent⟩ ∧
      bytes.foldl step (.reading (.number { phase, negative, whole, fraction }) frames) =
        .reading (.number p) frames := by
  cases h with
  | none =>
      refine ⟨_, ?_, rfl, rfl⟩
      rcases hphase with rfl | rfl | rfl <;> rfl
  | @some mark exponentNegative digits sign hmark hsign hdigits =>
      obtain ⟨first, hfirst, marked⟩ :=
        foldl_mark hphase hmark hsign negative whole fraction frames
      -- Behind the mark or the sign the number may not end before its first digit.
      let taking (taken : List Nat) : PartialNumeral :=
        { phase := if taken.isEmpty then first else .exponent, negative, whole, fraction,
          exponentNegative, exponent := taken }
      have begun : (mark :: sign).foldl step
          (.reading (.number { phase, negative, whole, fraction }) frames) =
            .reading (.number (taking [])) frames := marked
      have digits := foldl_digitBytes taking
        (fun taken d hd => by
          rcases hfirst with rfl | rfl <;> cases taken <;>
            simp [taking, PartialNumeral.extend?, digit?_digitByte hd]) hdigits.small [] frames
      refine ⟨_, ?_, ?_, by rw [List.foldl_append, begun, digits]⟩
      · simp [taking, hdigits.nonempty, PartialNumeral.mayEnd]
      · simp [taking, hdigits.nonempty, PartialNumeral.numeral]

/-- A digit begins a number where a value may begin. -/
theorem step_value_digitByte (frames : List Frame) : ∀ {d : Nat}, d < 10 →
    step (.reading .value frames) (digitByte d) =
      step (.reading (.number { phase := .sign }) frames) (digitByte d)
  | 0, _ | 1, _ | 2, _ | 3, _ | 4, _ | 5, _ | 6, _ | 7, _ | 8, _ | 9, _ => rfl
  | _ + 10, h => absurd h (by omega)

/-- A number may begin where a value may begin. -/
theorem foldl_sign (negative : Bool) {digits : List Nat} (h : IsWhole digits)
    (frames : List Frame) :
    ((if negative then [0x2D] else []) ++ digitBytes digits).foldl step
        (.reading .value frames) =
      (digitBytes digits).foldl step (.reading (.number { phase := .sign, negative }) frames) := by
  cases negative with
  | true => rfl
  | false =>
      rcases digits with _ | ⟨d, rest⟩
      · exact absurd rfl h.nonempty
      · have first := step_value_digitByte frames (h.small d List.mem_cons_self)
        simp [digitBytes, first]

/-- A number that the grammar derives is read up to a place where it may end. -/
theorem foldl_number {n : Numeral} {bytes : List UInt8} (h : n.Spells bytes)
    (frames : List Frame) :
    ∃ p : PartialNumeral, p.mayEnd = true ∧ p.numeral = n ∧
      bytes.foldl step (.reading .value frames) = .reading (.number p) frames := by
  obtain ⟨hwhole, hfraction, hexponent⟩ := h
  rename_i negative whole fraction exponent fractionBytes exponentBytes
  obtain ⟨phase, hphase, atWhole⟩ := foldl_whole hwhole negative frames
  obtain ⟨later, hlater, atFraction⟩ :=
    foldl_fraction hphase hfraction negative whole.reverse frames
  obtain ⟨p, hend, hp, atEnd⟩ :=
    foldl_exponent hlater hexponent negative whole.reverse fraction.reverse frames
  refine ⟨p, hend, by simpa using hp, ?_⟩
  rw [List.foldl_append, List.foldl_append, foldl_sign negative hwhole, atWhole, atFraction,
    atEnd]

/-! ## Strings -/

/-- A part of a string is taken as what it stands for. -/
theorem foldl_fragment {fragment : Fragment} {bytes : List UInt8} (h : fragment.Spells bytes)
    (role : Role) (taken : List Fragment) (frames : List Frame) :
    bytes.foldl step (.reading (.string role taken .outside) frames) =
      .reading (.string role (fragment :: taken) .outside) frames := by
  cases h with
  | plain hcontrol hquote hescape =>
      simp [step, stepString, hquote, hescape, UInt8.not_lt.mpr hcontrol]
  | @short letter b h =>
      have hletter : letter ≠ 0x75 := by
        rintro rfl
        simp [shortEscape?] at h
      simp [step, stepString, hletter, h]
  | unit h => simp [step, stepString, h]

/-- The parts of a string are taken one by one. -/
theorem foldl_fragments {fragments : List Fragment} {bytes : List UInt8}
    (h : SpellsFragments fragments bytes) (role : Role) (taken : List Fragment)
    (frames : List Frame) :
    bytes.foldl step (.reading (.string role taken .outside) frames) =
      .reading (.string role (fragments.reverse ++ taken) .outside) frames := by
  induction h generalizing taken with
  | nil => rfl
  | cons head _ ih =>
      rw [List.foldl_append, foldl_fragment head, ih]
      simp

/-- A string is read up to its closing quote. -/
theorem foldl_string {s : RawString} {bytes : List UInt8} (h : s.Spells bytes) {mode : Mode}
    {frames : List Frame} {role : Role}
    (opens : (reading mode frames).step 0x22 = .reading (.string role [] .outside) frames) :
    bytes.foldl step (reading mode frames) = endString role s.fragments.reverse frames := by
  obtain ⟨hfragments⟩ := h
  rw [List.foldl_cons, opens, List.foldl_append, foldl_fragments hfragments]
  simp [step, stepString]

/-! ## Values -/

/-- Reading goes on behind a value: the byte there ends a pending number. -/
theorem foldl_append_cons {reader after : Reader} {bytes rest : List UInt8} {b : UInt8}
    (h : (bytes.foldl step reader).endNumber = after) (follows : FollowsValue b) :
    (bytes ++ b :: rest).foldl step reader = rest.foldl step (after.step b) := by
  rw [List.foldl_append, List.foldl_cons, ← step_endNumber follows, h]

/-- The first item of an array is read like any other value. -/
theorem foldl_firstItem {bytes : List UInt8} (h : BeginsItem bytes) (frames : List Frame) :
    bytes.foldl step (.reading .firstItem frames) =
      bytes.foldl step (.reading .value (.items [] :: frames)) := by
  obtain ⟨before, b, rest, blank, rfl, hb, hne⟩ := h
  have same : step (.reading .firstItem frames) b =
      step (.reading .value (.items [] :: frames)) b := by
    simp [step, stepOutside, stepBetween, hb, hne]
  rw [List.foldl_append, foldl_blank_reading (fun _ => rfl) blank, List.foldl_append,
    foldl_blank_reading (fun _ => rfl) blank, List.foldl_cons, List.foldl_cons, same]

end Reader

open Reader

mutual

/-- A value is read and handed on. -/
theorem Tree.Spells.delivers {tree : Tree} {bytes : List UInt8} : tree.Spells bytes →
    ∀ frames, (bytes.foldl step (.reading .value frames)).endNumber = deliver tree frames
  | .nullWord, frames | .trueWord, frames | .falseWord, frames => endNumber_deliver _ frames
  | .number h, frames => by
      obtain ⟨p, hend, rfl, hp⟩ := foldl_number h frames
      rw [hp, endNumber]
      exact if_pos hend
  | .string h, frames => by
      have opens : (Reader.reading .value frames).step 0x22 =
          .reading (.string .value [] .outside) frames := rfl
      rw [foldl_string h opens]
      simp only [endString, List.reverse_reverse, h.complete, endNumber_deliver]
  | .emptyArray h, frames => by
      have opens : (Reader.reading .value frames).step 0x5B = .reading .firstItem frames := rfl
      rw [List.foldl_cons, opens, List.foldl_append, foldl_blank_reading (fun _ => rfl) h]
      exact endNumber_deliver _ frames
  | @Tree.Spells.array items bytes h, frames => by
      have opens : (Reader.reading .value frames).step 0x5B = .reading .firstItem frames := rfl
      have inside : (bytes.foldl step (.reading .firstItem frames)).endNumber =
          .reading (.afterItem items.reverse) frames := by
        rw [foldl_firstItem h.beginsItem, h.delivers [] frames, List.append_nil]
      rw [List.foldl_cons, opens, foldl_append_cons inside .endArray]
      simp [step, stepOutside, stepBetween, isBlank]
  | .emptyObject h, frames => by
      have opens : (Reader.reading .value frames).step 0x7B = .reading .firstKey frames := rfl
      rw [List.foldl_cons, opens, List.foldl_append, foldl_blank_reading (fun _ => rfl) h]
      exact endNumber_deliver _ frames
  | @Tree.Spells.object members bytes h, frames => by
      have opens : (Reader.reading .value frames).step 0x7B = .reading .firstKey frames := rfl
      have inside : (bytes.foldl step (.reading .firstKey frames)).endNumber =
          .reading (.afterMember members.reverse) frames := by
        rw [h.delivers (fun _ => rfl) rfl, List.append_nil]
      rw [List.foldl_cons, opens, foldl_append_cons inside .endObject]
      simp [step, stepOutside, stepBetween, isBlank]
  | @Tree.Spells.padded _ _ bytes after hbefore h hafter, frames => by
      rw [List.foldl_append, List.foldl_append, foldl_blank_reading (fun _ => rfl) hbefore]
      rcases after with _ | ⟨b, rest⟩
      · exact h.delivers frames
      · have follows : FollowsValue b := .blank (hafter b List.mem_cons_self)
        rw [List.foldl_cons, ← step_endNumber follows, h.delivers frames, ← List.foldl_cons,
          foldl_blank_deliver tree frames hafter]
        exact endNumber_deliver tree frames

/-- The items of an array are read and collected. -/
theorem SpellsItems.delivers {items : List Tree} {bytes : List UInt8} : SpellsItems items bytes →
    ∀ earlier frames, (bytes.foldl step (.reading .value (.items earlier :: frames))).endNumber =
      .reading (.afterItem (items.reverse ++ earlier)) frames
  | .last h, earlier, frames => h.delivers _
  | .more h tail, earlier, frames => by
      rw [foldl_append_cons (h.delivers _) .comma, List.reverse_cons,
        List.append_assoc]
      exact tail.delivers _ frames

/-- A member of an object is read and collected. -/
theorem SpellsMember.delivers {member : RawString × Tree} {bytes : List UInt8} :
    SpellsMember member bytes → ∀ {mode frames earlier},
    (∀ b, (reading mode frames).step b = stepBetween mode b frames) →
    (reading mode frames).step 0x22 = .reading (.string (.key earlier) [] .outside) frames →
    (bytes.foldl step (.reading mode frames)).endNumber =
      .reading (.afterMember (member :: earlier)) frames
  | .mk hbefore hkey hafter hcontent, mode, frames, earlier, between, opens => by
      rw [List.foldl_append, List.foldl_append, List.foldl_append,
        foldl_blank_reading between hbefore, foldl_string hkey opens]
      simp only [endString, List.reverse_reverse, hkey.complete]
      rw [foldl_blank_reading (fun _ => rfl) hafter]
      exact hcontent.delivers _

/-- The members of an object are read and collected. -/
theorem SpellsMembers.delivers {members : List (RawString × Tree)} {bytes : List UInt8} :
    SpellsMembers members bytes → ∀ {mode frames earlier},
    (∀ b, (reading mode frames).step b = stepBetween mode b frames) →
    (reading mode frames).step 0x22 = .reading (.string (.key earlier) [] .outside) frames →
    (bytes.foldl step (.reading mode frames)).endNumber =
      .reading (.afterMember (members.reverse ++ earlier)) frames
  | .last h, _, _, _, between, opens => h.delivers between opens
  | .more h tail, mode, frames, earlier, between, opens => by
      rw [foldl_append_cons (h.delivers between opens) .comma, List.reverse_cons,
        List.append_assoc]
      exact tail.delivers (fun _ => rfl) rfl

end

/-- A text is read as the value that it spells. -/
theorem read_of_spells {tree : Tree} {bytes : List UInt8} (h : tree.Spells bytes) :
    read bytes = ⟨tree, false⟩ := by
  have complete : (bytes.foldl step .start).endNumber = .complete tree false := h.delivers []
  rw [read, finish, complete]

end NwScript.Json
