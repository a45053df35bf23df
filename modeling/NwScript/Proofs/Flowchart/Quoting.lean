/-
# Quotes that close

A reader that takes a backslash for the escape of any character stops at the first quote that
is not escaped. What is quoted is passed by it: the reader is in step again behind it, and a
beginning of it has no closing quote. So the literal of a text ends at its last quote, and the
lines of a node do not end its label, also where one of them holds such a literal and the text
is quoted twice. A title that is not plain may end it, for titles are not quoted.
-/

import NwScript.Proofs.Flowchart.Label
import NwScript.Proofs.Instruction.Constant

namespace NwScript

open Text Flowchart

namespace Flowchart

/-- What a line of a label is read as by a reader that knows no line ends: their letters are
left. -/
def LabelLine.chars (line : LabelLine) : List Char := line.text.toList ++ [line.ending.letter]

/-- Lines that are written are passed, whatever they show. -/
theorem passes_written (lines : List LabelLine) :
    Passes (lines.flatMap LabelLine.written) (lines.flatMap LabelLine.chars) :=
  passes_flatMap fun line _ =>
    (passes_escape line.text.toList).append (passes_backslash line.ending.letter)

/-- What stands above the lines of a node is passed if its title is plain. -/
theorem Node.passes_heading {node : Node} (h : ∀ title ∈ node.title, Plain title) :
    Passes (node.tagsText ++ node.titleText).toList
      ((tagLines node.tags ++ node.title.toList.map titleLine).flatMap LabelLine.chars) := by
  rw [String.toList_append, toList_tagsText, toList_titleText_eq_iff.mpr h,
    ← List.flatMap_append]
  exact passes_written _

/-- A line of a node is read back within its label. -/
theorem exists_chars_instructionLine {line : String} {lines : List String} (h : line ∈ lines) :
    ∃ ahead behind,
      (lines.map instructionLine).flatMap LabelLine.chars = ahead ++ line.toList ++ behind := by
  obtain ⟨before, after, rfl⟩ := List.append_of_mem h
  simp only [List.map_append, List.map_cons, List.flatMap_append, List.flatMap_cons,
    LabelLine.chars, instructionLine, String.toList_append, List.append_assoc]
  exact ⟨_ ++ "  ".toList, _, by simp only [List.append_assoc]; rfl⟩

end Flowchart

/-- Behind a quoted text the next quote is the closing one, and in it there is none, wherever it
is cut off. So texts are told from each other by how they are quoted, and their parts are quoted
one by one. The literal of a text ends at its last quote. Whatever stands above the lines of a
node, no quote in them is the closing one of its label, and the label ends at the quote that is
written behind it if the title is plain; a literal in a line is then read back with its quotes,
and the text from between them. -/
theorem quoted_text_closes :
    (∀ (text : String) (after : List Char),
      unescape ((quote text).toList ++ '"' :: after) = some (text.toList, after)) ∧
    (∀ (text : String) (count : Nat), unescape ((quote text).toList.take count) = none) ∧
    Function.Injective quote ∧
    (∀ first second : String, quote (first ++ second) = quote first ++ quote second) ∧
    (∀ (instr : Instruction) (literal : String),
      instr.operandType = .string ∨ instr.operandType = .resource →
        instr.constant? = some literal →
          ∃ quoted, literal.toList = '"' :: quoted ∧ ∀ after,
            unescape (quoted ++ after) = some ((decodeLossy instr.payload).toList, after)) ∧
    ∀ node : Node, ∃ lines shown,
      node.labelText.toList = (node.tagsText ++ node.titleText).toList ++ lines ∧
        (∀ after, unescape (lines ++ '"' :: after) = some (shown, after)) ∧
        ((∀ title ∈ node.title, Plain title) → ∃ heading, ∀ after,
          unescape (node.labelText.toList ++ '"' :: after) = some (heading ++ shown, after)) ∧
        ∀ before text behind : String,
          before ++ "\"" ++ quote text ++ "\"" ++ behind ∈ node.lines →
            ∃ ahead literal after, shown = ahead ++ before.toList ++ '"' :: literal ∧
              unescape literal = some (text.toList, behind.toList ++ after) := by
  refine ⟨unescape_quote, ?_, quote_injective, ?_, ?_, ?_⟩
  · intro text count
    rw [quote, String.toList_ofList]
    exact unescape_take_escape text.toList count
  · intro first second
    rw [quote, String.toList_append, escape_append, String.ofList_append]
    rfl
  · intro instr literal type hliteral
    refine ⟨escape (decodeLossy instr.payload).toList ++ ['"'], ?_, fun after => ?_⟩
    · rw [literal_of_text type hliteral]
      simp [quote]
    · rw [List.append_assoc]
      exact (passes_escape _).closes after
  · intro node
    have hlines := passes_written (node.lines.map instructionLine)
    have hlabel : node.labelText.toList = (node.tagsText ++ node.titleText).toList ++
        (node.lines.map instructionLine).flatMap LabelLine.written := by
      rw [Node.labelText, String.toList_append, toList_linesText]
    refine ⟨_, _, hlabel, hlines.closes, ?_, ?_⟩
    · intro htitle
      rw [hlabel]
      exact ⟨_, ((Node.passes_heading htitle).append hlines).closes⟩
    · intro before text behind hline
      obtain ⟨ahead, after, hchars⟩ := exists_chars_instructionLine hline
      refine ⟨ahead, (quote text).toList ++ '"' :: (behind.toList ++ after), after, ?_,
        unescape_quote _ _⟩
      rw [hchars]
      simp

/-- A constant that loads a backslash, a quote and another backslash. -/
def lastBackslash : Instruction where
  address := 13
  opcode := .const
  operandType := .string
  bytes := [0, 3, 0x5C, 0x22, 0x5C]

/-- The node that shows the constant, below a title. -/
def lastBackslashNode : Node where
  name := ⟨13, 0⟩
  title := some "main"
  lines := ["CONSTS     \"\\\\\\\"\\\\\""]

/-- The backslash at the end of the text takes neither the quote of the literal nor that of the
label with it. -/
theorem quoted_text_closes_lastBackslash :
    lastBackslash.operandType = .string ∧
      lastBackslash.constant? = some "\"\\\\\\\"\\\\\"" ∧
      (∀ after, unescape ("\\\\\\\"\\\\\"".toList ++ after) =
        some ("\\\"\\".toList, after)) ∧
      (∀ title ∈ lastBackslashNode.title, Plain title) ∧
      ∃ heading ahead literal after, (∀ rest,
          unescape (lastBackslashNode.labelText.toList ++ '"' :: rest) =
            some (heading ++ (ahead ++ "CONSTS     ".toList ++ '"' :: literal), rest)) ∧
        unescape literal = some ("\\\"\\".toList, after) := by
  obtain ⟨-, -, -, -, hliteral, hlabel⟩ := quoted_text_closes
  have hconstant : lastBackslash.constant? = some "\"\\\\\\\"\\\\\"" := by cbv
  have htitle : ∀ title ∈ lastBackslashNode.title, Plain title := by decide
  obtain ⟨quoted, hquoted, hread⟩ := hliteral lastBackslash _ (.inl rfl) hconstant
  obtain ⟨lines, shown, -, -, hclosed, hlines⟩ := hlabel lastBackslashNode
  obtain ⟨heading, hlabel⟩ := hclosed htitle
  obtain ⟨ahead, literal, after, rfl, htext⟩ :=
    hlines "CONSTS     " "\\\"\\" "" (List.mem_singleton.mpr (by cbv))
  refine ⟨rfl, hconstant, ?_, htitle, heading, ahead, literal, after, hlabel, htext⟩
  obtain rfl : "\\\\\\\"\\\\\"".toList = quoted := List.cons_injective hquoted
  exact hread

end NwScript
