/-
# Depth and indentation

A reader who counts the braces of a text knows at each line how deep it lies. The text is
laid out if no brace closes what none has opened, none is left open, and each line stands
in as far as it lies deep, or one step less if it begins with the brace that closes.

A text is level at a depth if it is made of lines that stand right and lead back to the
depth. Level texts that follow each other are level, and so is one between a line that
ends with an opening brace and one that closes it, if the text is level one step further
in. That is all there is to know of the text between the braces: what branches hold and
how far they nest does not matter.
-/

import Mathlib
import NwScript.Proofs.Source.Indentation
import NwScript.Proofs.Text.Alphabet

namespace NwScript

/-- A character that neither nests, nor indents, nor ends a line. -/
def Text.IsCalm (c : Char) : Prop := c ≠ '\x7b' ∧ c ≠ '\x7d' ∧ c ≠ '\t' ∧ c ≠ '\n'

instance : DecidablePred Text.IsCalm := fun _ => inferInstanceAs (Decidable (_ ∧ _))

open Text

section Reading

/-- The depth behind a character; there is none behind a brace that ends nothing. -/
def braceStep (depth : Nat) (c : Char) : Option Nat :=
  if c = '\x7b' then some (depth + 1)
  else if c = '\x7d' then if depth = 0 then none else some (depth - 1)
  else some depth

/-- The depth behind some characters, if each brace among them that closes ends a branch. -/
def depthAfter (depth : Nat) (text : List Char) : Option Nat := text.foldlM braceStep depth

/-- The line begins with a brace that closes. -/
def closes (line : List Char) : Bool := (line.drop (indentation line)).head? = some '\x7d'

/-- A line stands in as far as it lies deep, or one step less if it closes a branch. An
empty line stands anywhere. -/
def Stands (depth : Nat) (line : List Char) : Prop :=
  line ≠ [] → indentation line + (if closes line then 1 else 0) = depth

/-- The braces of a text are balanced, and its lines stand in as far as they lie deep. -/
structure LaidOut (text : String) : Prop where
  balanced : depthAfter 0 text.toList = some 0
  stands : ∀ before line after, linesOf text = before ++ line :: after →
    ∃ depth, depthAfter 0 before.flatten = some depth ∧ Stands depth line

/-- Lines that stand right lead from one depth to another. -/
inductive Leads : Nat → List (List Char) → Nat → Prop
  | nil (depth : Nat) : Leads depth [] depth
  | cons {first next last : Nat} {line : List Char} {rest : List (List Char)}
      (whole : '\n' ∉ line) (stands : Stands first line)
      (passes : depthAfter first line = some next) (others : Leads next rest last) :
      Leads first (line :: rest) last

/-- A text is made of lines that stand right at a depth and lead back to it. -/
def IsLevel (depth : Nat) (text : String) : Prop :=
  ∃ lines, text.toList = lines.flatMap (· ++ ['\n']) ∧ Leads depth lines depth

theorem depthAfter_append (depth : Nat) (first second : List Char) :
    depthAfter depth (first ++ second) =
      (depthAfter depth first).bind fun next => depthAfter next second :=
  List.foldlM_append

/-- Characters without a brace keep the depth. -/
theorem depthAfter_of_forall {text : List Char} (h : ∀ c ∈ text, c ≠ '\x7b' ∧ c ≠ '\x7d')
    (depth : Nat) : depthAfter depth text = some depth := by
  induction text with
  | nil => rfl
  | cons c rest ih =>
      rw [List.forall_mem_cons] at h
      have hstep : braceStep depth c = some depth := by
        rw [braceStep, if_neg h.1.1, if_neg h.1.2]
      rw [depthAfter, List.foldlM_cons, hstep]
      exact ih h.2

namespace Leads

variable {first middle last : Nat} {lines others : List (List Char)}

theorem append (hlines : Leads first lines middle) (hothers : Leads middle others last) :
    Leads first (lines ++ others) last := by
  induction hlines with
  | nil depth => exact hothers
  | cons whole stands passes _ ih => exact .cons whole stands passes (ih hothers)

/-- Lines that lead somewhere are counted to the same; their ends are no braces. -/
theorem depthAfter_text (h : Leads first lines last) :
    depthAfter first (lines.flatMap (· ++ ['\n'])) = some last := by
  induction h with
  | nil depth => rfl
  | cons _ _ passes _ ih =>
      rw [List.flatMap_cons, depthAfter_append, depthAfter_append, passes]
      exact ih

/-- Each line stands right for the depth to which those before it lead. -/
theorem stands_of_eq_append (h : Leads first lines last) {before after : List (List Char)}
    {line : List Char} (heq : lines = before ++ line :: after) :
    ∃ depth, depthAfter first before.flatten = some depth ∧ Stands depth line := by
  induction h generalizing before with
  | nil depth => simp at heq
  | cons whole stands passes _ ih =>
      cases before with
      | nil =>
          cases heq
          exact ⟨_, rfl, stands⟩
      | cons head before =>
          cases heq
          obtain ⟨depth, hdepth, hstands⟩ := ih rfl
          refine ⟨depth, ?_, hstands⟩
          rw [List.flatten_cons, depthAfter_append, passes]
          exact hdepth

/-- Line feeds part a text of lines into these lines. -/
theorem splitOn_text (h : Leads first lines last) :
    List.splitOn '\n' (lines.flatMap (· ++ ['\n'])) = lines ++ [[]] := by
  induction h with
  | nil depth => rfl
  | cons whole _ _ _ ih =>
      rw [List.flatMap_cons, List.append_assoc, List.singleton_append,
        List.splitOn_append_cons_self_of_not_mem whole, ih]
      rfl

end Leads

/-- A text that is level at no depth is laid out. -/
theorem IsLevel.laidOut {text : String} (h : IsLevel 0 text) : LaidOut text := by
  obtain ⟨lines, htext, hleads⟩ := h
  refine { balanced := htext ▸ hleads.depthAfter_text, stands := ?_ }
  intro before line after heq
  rw [linesOf, htext, hleads.splitOn_text] at heq
  -- Behind the last line feed is an empty line.
  have hend : Leads 0 (lines ++ [[]]) 0 :=
    hleads.append (.cons (by simp) (fun hne => absurd rfl hne) rfl (.nil 0))
  exact hend.stands_of_eq_append heq

end Reading

section Writing

variable {depth : Nat}

namespace IsLevel

protected theorem empty : IsLevel depth "" := ⟨[], rfl, .nil depth⟩

/-- Level texts that follow each other are level. -/
protected theorem append {text others : String} (htext : IsLevel depth text)
    (hothers : IsLevel depth others) : IsLevel depth (text ++ others) := by
  obtain ⟨lines, hchars, hlines⟩ := htext
  obtain ⟨more, hmore, hothers⟩ := hothers
  exact ⟨lines ++ more, by rw [String.toList_append, hchars, hmore, List.flatMap_append],
    hlines.append hothers⟩

end IsLevel

section Lines

variable {content : String}

/-- Ink is calm. -/
theorem isCalm_of_isInk (c : Char) (h : IsInk c) : IsCalm c := by
  refine ⟨h.2.1, h.2.2, ?_, h.ne_lineFeed⟩
  rintro rfl
  exact absurd h (by decide)

/-- A text does not begin with what it is not over. -/
theorem head?_ne_of_over {kind : Char → Prop} (h : Over kind content) {c : Char} (hc : ¬ kind c) :
    content.toList.head? ≠ some c :=
  fun hhead => hc (h c (List.mem_of_mem_head? hhead))

/-- A text over characters that neither indent nor end a line is plain. -/
theorem plain_of_over {kind : Char → Prop} (h : Over kind content) (hfeed : ¬ kind '\n')
    (htab : ¬ kind '\t') : Plain content :=
  ⟨fun hmem => hfeed (h _ hmem), head?_ne_of_over h htab⟩

/-- A line leads on from the depth for which it stands right. -/
theorem leads_chars {line : SourceLine} (h : Plain line.content) {first next : Nat}
    (stands : line.indent + (if line.content.toList.head? = some '\x7d' then 1 else 0) = first)
    (passes : depthAfter first line.content.toList = some next) :
    Leads first [line.chars] next := by
  have htabs : depthAfter first (List.replicate line.indent '\t') = some first :=
    depthAfter_of_forall (fun c hc => by rw [List.eq_of_mem_replicate hc]; decide) first
  have hcloses : closes line.chars = decide (line.content.toList.head? = some '\x7d') := by
    rw [closes, indentation_chars h, SourceLine.chars,
      List.drop_left' (List.length_replicate ..)]
  refine .cons (SourceLine.not_mem_chars h) (fun _ => ?_) ?_ (.nil next)
  · rw [indentation_chars h, hcloses, ← stands]
    simp
  · rw [SourceLine.chars, depthAfter_append, htabs]
    exact passes

/-- A calm line keeps the depth. -/
theorem leads_calm (h : Over IsCalm content) :
    Leads depth [SourceLine.chars ⟨depth, content⟩] depth := by
  refine leads_chars (plain_of_over h (by decide) (by decide)) ?_ ?_
  · dsimp only
    rw [if_neg (head?_ne_of_over h (by decide)), Nat.add_zero]
  · exact depthAfter_of_forall (fun c hc => ⟨(h c hc).1, (h c hc).2.1⟩) depth

/-- A line that ends with an opening brace leads one step further in. -/
theorem leads_opening (h : Over IsCalm content) :
    Leads depth [SourceLine.chars ⟨depth, content ++ "\x7b"⟩] (depth + 1) := by
  have hkind : Over (fun c => c ≠ '\x7d' ∧ c ≠ '\t' ∧ c ≠ '\n') (content ++ "\x7b") :=
    over_append.mpr ⟨h.mono fun _ hc => hc.2, by decide⟩
  refine leads_chars (plain_of_over hkind (by decide) (by decide)) ?_ ?_
  · dsimp only
    rw [if_neg (head?_ne_of_over hkind (by decide)), Nat.add_zero]
  · rw [String.toList_append, depthAfter_append,
      depthAfter_of_forall (fun c hc => ⟨(h c hc).1, (h c hc).2.1⟩) depth]
    rfl

/-- A closing brace leads one step out. -/
theorem leads_closing : Leads (depth + 1) [SourceLine.chars ⟨depth, "\x7d"⟩] depth :=
  leads_chars (by decide : Plain "\x7d") (by simp) (by simp [depthAfter, braceStep])

/-- Between two branches nothing changes. -/
theorem leads_turning :
    Leads (depth + 1) [SourceLine.chars ⟨depth, "\x7d else \x7b"⟩] (depth + 1) :=
  leads_chars (by decide : Plain "\x7d else \x7b") (by simp) (by simp [depthAfter, braceStep])

end Lines

namespace IsLevel

variable {content : String} {inner second : String}

/-- A calm line is level at its own depth. -/
protected theorem line (h : Over IsCalm content) :
    IsLevel depth (SourceLine.text ⟨depth, content⟩) :=
  ⟨_, by rw [SourceLine.toList_text, List.flatMap_singleton], leads_calm h⟩

/-- A branch is level around what is level one step further in. -/
theorem branch (h : Over IsCalm content) (hinner : IsLevel (depth + 1) inner) :
    IsLevel depth (SourceLine.text ⟨depth, content ++ "\x7b"⟩ ++ inner ++
      SourceLine.text ⟨depth, "\x7d"⟩) := by
  obtain ⟨lines, hchars, hlines⟩ := hinner
  refine ⟨_, ?_, ((leads_opening h).append hlines).append leads_closing⟩
  simp [SourceLine.toList_text, hchars]

/-- So are two branches with a turn between them. -/
theorem branches (h : Over IsCalm content) (hinner : IsLevel (depth + 1) inner)
    (hsecond : IsLevel (depth + 1) second) :
    IsLevel depth (SourceLine.text ⟨depth, content ++ "\x7b"⟩ ++ inner ++
      (SourceLine.text ⟨depth, "\x7d else \x7b"⟩ ++ second ++
        SourceLine.text ⟨depth, "\x7d"⟩)) := by
  obtain ⟨lines, hchars, hlines⟩ := hinner
  obtain ⟨others, hothers, hmore⟩ := hsecond
  refine ⟨_, ?_, ((leads_opening h).append hlines).append
    ((leads_turning.append hmore).append leads_closing)⟩
  simp [SourceLine.toList_text, hchars, hothers]

end IsLevel

end Writing

end NwScript
