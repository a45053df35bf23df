/-
# Labels that read back

The label of a node stands between quotes. In it a backslash comes before a quote
or a backslash that is meant, and before a letter that ends a line; a text in
which it comes before anything else is no label. So a label has one written form,
and what a node writes is read back as what it shows exactly if it is that form.
The lines of instructions are escaped and the tags of control structures have
nothing to escape, so it depends on the title alone, which is written as it is:
a name with a quote or a backslash in it ends the label early or shows as
something else.
-/

import Mathlib
import NwScript.Proofs.Flowchart.Statements
import NwScript.Proofs.Naming.MadeUp
import NwScript.Proofs.Text.Quoted

namespace NwScript.Flowchart

/-! ## Reading labels -/

/-- How a line of a label ends: in the middle of its node, or at the left edge. -/
inductive LineEnd
  | middle
  | left
  deriving DecidableEq

/-- The letter that ends a line, behind a backslash. -/
def LineEnd.letter : LineEnd → Char
  | middle => 'n'
  | left => 'l'

/-- The line end that a letter behind a backslash stands for. -/
def LineEnd.ofLetter? (c : Char) : Option LineEnd :=
  if c = 'n' then some .middle else if c = 'l' then some .left else none

/-- A line of a label. -/
structure LabelLine where
  text : String
  ending : LineEnd
  deriving DecidableEq

/-- What a label shows: its lines, and a text behind the last of them. -/
structure Label where
  lines : List LabelLine
  last : String := ""
  deriving DecidableEq

/-- A label with one more line at its beginning. -/
def Label.cons (line : LabelLine) (label : Label) : Label :=
  { label with lines := line :: label.lines }

/-- Read a label up to the quote that ends it, given what was read of its present
line, the latest first. What follows the quote is left over. -/
def readLabelFrom (line : List Char) : List Char → Option (Label × List Char)
  | [] => none
  | '"' :: rest => some ({ lines := [], last := String.ofList line.reverse }, rest)
  | ['\\'] => none
  | '\\' :: c :: rest =>
      match LineEnd.ofLetter? c with
      | some ending =>
          (readLabelFrom [] rest).map fun (label, after) =>
            (label.cons ⟨String.ofList line.reverse, ending⟩, after)
      | none => if Text.IsPlain c then none else readLabelFrom (c :: line) rest
  | c :: rest => readLabelFrom (c :: line) rest

/-- Read a label from behind the quote that begins it. -/
def readLabel (text : String) : Option (Label × String) :=
  (readLabelFrom [] text.toList).map fun (label, after) => (label, String.ofList after)

/-- A line as it is written. -/
def LabelLine.written (line : LabelLine) : List Char :=
  Text.escape line.text.toList ++ ['\\', line.ending.letter]

/-- A label as it is written, without the quotes around it. -/
def Label.written (label : Label) : List Char :=
  label.lines.flatMap LabelLine.written ++ Text.escape label.last.toList

theorem Label.written_cons (line : LabelLine) (label : Label) :
    (label.cons line).written = line.written ++ label.written := by
  simp [Label.cons, Label.written]

section Reading

variable {line rest after : List Char} {label : Label} {c : Char}

theorem LineEnd.ofLetter?_eq_some_iff {ending : LineEnd} :
    LineEnd.ofLetter? c = some ending ↔ c = ending.letter := by
  unfold LineEnd.ofLetter?
  cases ending <;> simp only [LineEnd.letter] <;> split <;> simp_all

/-- A plain character is read as itself. -/
theorem readLabelFrom_plain (h : Text.IsPlain c) :
    readLabelFrom line (c :: rest) = readLabelFrom (c :: line) rest := by
  obtain ⟨hquote, hescape⟩ := h
  rw [readLabelFrom]
  · exact hquote
  · exact fun hc _ => hescape hc
  · exact fun _ _ hc _ => hescape hc

/-- What is escaped is read as what it was. -/
theorem readLabelFrom_escape (text : List Char) :
    readLabelFrom line (Text.escape text ++ rest) = readLabelFrom (text.reverse ++ line) rest := by
  induction text generalizing line with
  | nil => rfl
  | cons c text ih =>
      rw [Text.escape_cons, List.reverse_cons, List.append_assoc, List.singleton_append]
      split
      · next hplain => rw [List.cons_append, readLabelFrom_plain hplain, ih]
      · next hspecial =>
          have hletter : LineEnd.ofLetter? c = none := by
            unfold Text.IsPlain at hspecial
            unfold LineEnd.ofLetter?
            grind
          rw [List.cons_append, List.cons_append, readLabelFrom, hletter]
          dsimp only
          rw [if_neg hspecial, ih]

/-- A line that is written is read as itself. -/
theorem readLabelFrom_written (written : LabelLine) :
    readLabelFrom [] (written.written ++ rest) =
      (readLabelFrom [] rest).map fun (label, after) => (label.cons written, after) := by
  have hletter : LineEnd.ofLetter? written.ending.letter = some written.ending :=
    LineEnd.ofLetter?_eq_some_iff.mpr rfl
  rw [LabelLine.written, List.append_assoc, readLabelFrom_escape, List.cons_append,
    List.cons_append, List.nil_append, readLabelFrom, hletter]
  simp

/-- A label is read from its written form and from nothing else. -/
theorem readLabelFrom_eq_some_iff {text : List Char} :
    readLabelFrom [] text = some (label, after) ↔ text = label.written ++ '"' :: after := by
  constructor
  · -- What was read of the present line counts as written before the text.
    have sound : ∀ line, readLabelFrom line text = some (label, after) →
        Text.escape line.reverse ++ text = label.written ++ '"' :: after := by
      intro line h
      fun_induction readLabelFrom line text generalizing label after with
      | case1 line => cases h
      | case2 line rest =>
          cases h
          simp [Label.written]
      | case3 line => cases h
      | case4 line c rest ending hletter ih =>
          obtain ⟨⟨inner, left⟩, hinner, heq⟩ := Option.map_eq_some_iff.mp h
          cases heq
          have hrest := ih hinner
          rw [LineEnd.ofLetter?_eq_some_iff] at hletter
          rw [Label.written_cons, LabelLine.written, hletter]
          simp [← hrest, Text.escape]
      | case5 line c rest hletter hplain => cases h
      | case6 line c rest hletter hspecial ih =>
          rw [← ih h, List.reverse_cons, Text.escape_append, Text.escape_cons, if_neg hspecial]
          simp [Text.escape]
      | case7 line c rest hquote hend hescape ih =>
          have hplain : Text.IsPlain c := by
            refine ⟨hquote, fun hc => ?_⟩
            cases rest with
            | nil => exact hend hc rfl
            | cons d rest => exact hescape d rest hc rfl
          rw [← ih h, List.reverse_cons, Text.escape_append, Text.escape_cons, if_pos hplain]
          simp [Text.escape]
    intro h
    simpa [Text.escape] using sound [] h
  · rintro rfl
    obtain ⟨lines, last⟩ := label
    induction lines with
    | nil =>
        rw [Label.written, List.flatMap_nil, List.nil_append, readLabelFrom_escape, readLabelFrom]
        simp
    | cons first lines ih =>
        have hcons : (⟨first :: lines, last⟩ : Label) = Label.cons first ⟨lines, last⟩ := rfl
        rw [hcons, Label.written_cons, List.append_assoc, readLabelFrom_written, ih]
        rfl

/-- A label is read from behind its first quote exactly if it stands there in its
written form, up to a quote. -/
theorem readLabel_eq_some_iff {text behind : String} :
    readLabel text = some (label, behind) ↔
      text.toList = label.written ++ '"' :: behind.toList := by
  rw [← readLabelFrom_eq_some_iff, readLabel, Option.map_eq_some_iff]
  constructor
  · rintro ⟨⟨found, after⟩, hread, heq⟩
    cases heq
    rw [hread, String.toList_ofList]
  · intro hread
    exact ⟨_, hread, by simp⟩

end Reading

/-! ## The labels of nodes -/

/-- The tags of control structures, a line for each, and an empty line below them. -/
def tagLines (tags : List ControlType) : List LabelLine :=
  if tags.isEmpty then []
  else tags.map (fun role => ⟨role.tag, .middle⟩) ++ [⟨"", .middle⟩]

/-- The line that shows a title. -/
def titleLine (title : String) : LabelLine := ⟨title ++ ":", .left⟩

/-- The line that shows an instruction. -/
def instructionLine (text : String) : LabelLine := ⟨"  " ++ text, .left⟩

/-- What the label of a node has to show: its tags, its title if it has one, and the
texts of its instructions. -/
def Node.shown (node : Node) : Label where
  lines := tagLines node.tags ++ node.title.toList.map titleLine ++
    node.lines.map instructionLine

/-- The statement that declares a node has a label that shows this and ends at the
last quote of the statement. -/
def Node.ReadsAs (node : Node) (label : Label) : Prop :=
  ∃ written, node.text = "    \"" ++ node.name.text ++ "\" [ shape=\"box\" label=\"" ++ written ∧
    readLabel written = some (label, " ]\n")

section Nodes

variable {node : Node}

/-- Nothing in the tag of a control structure is escaped. -/
theorem plain_tag (role : ControlType) : Text.Plain role.tag := by
  cases role <;> decide

/-- The tags of a node stand in its label as they have to be written. -/
theorem toList_tagsText :
    node.tagsText.toList = (tagLines node.tags).flatMap LabelLine.written := by
  have hline (role : ControlType) :
      (role.tag ++ "\\n").toList = LabelLine.written ⟨role.tag, .middle⟩ := by
    rw [LabelLine.written, Text.escape_eq_self_iff.mpr (plain_tag role), String.toList_append]
    rfl
  unfold Node.tagsText tagLines
  split
  · rfl
  · rw [String.toList_append, String.toList_join, List.flatMap_append]
    simp only [List.flatMap_map, hline]
    rfl

/-- The texts of instructions stand in a label as they have to be written. -/
theorem toList_linesText (lines : List String) :
    (String.join (lines.map fun line => "  " ++ Text.quote line ++ "\\l")).toList =
      (lines.map instructionLine).flatMap LabelLine.written := by
  have hline (line : String) :
      ("  " ++ Text.quote line ++ "\\l").toList = (instructionLine line).written := by
    simp only [instructionLine, LabelLine.written, Text.quote, String.toList_append,
      String.toList_ofList, Text.escape_append]
    rfl
  simp only [String.toList_join, List.flatMap_map, hline]

/-- A title stands in a label as it has to be written exactly if it is plain. -/
theorem toList_titleText_eq_iff :
    node.titleText.toList = (node.title.toList.map titleLine).flatMap LabelLine.written ↔
      ∀ title ∈ node.title, Text.Plain title := by
  unfold Node.titleText
  cases node.title with
  | none => simp
  | some title =>
      have hwritten : (titleLine title).written =
          Text.escape title.toList ++ (":\\l").toList := by
        rw [titleLine, LabelLine.written, String.toList_append, Text.escape_append,
          List.append_assoc]
        rfl
      simp only [Option.toList_some, List.map_cons, List.map_nil, List.flatMap_cons,
        List.flatMap_nil, List.append_nil, hwritten, String.toList_append,
        List.append_cancel_right_eq, Option.mem_some_iff, forall_eq']
      exact eq_comm.trans Text.escape_eq_self_iff

/-- The label of a node is written as what the node shows exactly if its title, if it has
one, is plain. -/
theorem Node.toList_labelText_eq_iff :
    node.labelText.toList = node.shown.written ↔ ∀ title ∈ node.title, Text.Plain title := by
  have hwritten : node.shown.written =
      (tagLines node.tags).flatMap LabelLine.written ++
        (node.title.toList.map titleLine).flatMap LabelLine.written ++
        (node.lines.map instructionLine).flatMap LabelLine.written := by
    simp [Label.written, Node.shown, Text.escape]
  rw [hwritten, Node.labelText, String.toList_append, String.toList_append, toList_tagsText,
    toList_linesText, List.append_cancel_right_eq, List.append_cancel_left_eq]
  exact toList_titleText_eq_iff

/-- The label of a node reads back as what the node shows exactly if its title, if it
has one, is plain. -/
theorem Node.readsAs_shown_iff :
    node.ReadsAs node.shown ↔ ∀ title ∈ node.title, Text.Plain title := by
  rw [← Node.toList_labelText_eq_iff, ReadsAs]
  constructor
  · rintro ⟨written, htext, hread⟩
    rw [readLabel_eq_some_iff] at hread
    have hsame : node.labelText ++ "\" ]\n" = written := by
      rw [Node.text, String.append_assoc] at htext
      exact String.append_right_inj _ |>.mp htext
    rw [← hsame, String.toList_append] at hread
    exact List.append_cancel_right hread
  · intro heq
    refine ⟨node.labelText ++ "\" ]\n", ?_, ?_⟩
    · rw [Node.text, String.append_assoc]
    · rw [readLabel_eq_some_iff, String.toList_append, heq]
      rfl

end Nodes

/-! ## The labels of a flowchart -/

/-- What the label of a piece of a block has to show: the texts of its instructions,
and above them, in the first piece, the tags and the title of the block. -/
def pieceLabel (tags : List ControlType) (title : String) (index : Nat)
    (piece : List String) : Label where
  lines := (if index = 0 then tagLines tags ++ [titleLine title] else []) ++
    piece.map instructionLine

/-- The label of a node with a piece of a block reads back as what it has to show,
unless it has the title of the block and that is not plain. -/
theorem Node.readsAs_pieceLabel_iff {node : Node} {tags : List ControlType} {title : String}
    {index : Nat} (htags : node.tags = if index = 0 then tags else [])
    (htitle : node.title = if index = 0 then some title else none) :
    node.ReadsAs (pieceLabel tags title index node.lines) ↔ (index = 0 → Text.Plain title) := by
  have hshown : node.shown = pieceLabel tags title index node.lines := by
    unfold Node.shown pieceLabel
    rw [htags, htitle]
    cases index <;> simp [tagLines]
  have hplain : (∀ shown ∈ node.title, Text.Plain shown) ↔ (index = 0 → Text.Plain title) := by
    rw [htitle]
    cases index <;> simp
  rw [← hshown, Node.readsAs_shown_iff, hplain]

end NwScript.Flowchart

namespace NwScript.Analysis

open Flowchart

variable (a : Analysis) (game : Game) (withTags : Bool)

/-- The names that a script gives to its subroutines are plain. -/
def NamesPlain : Prop := ∀ sub ∈ a.subRoutines, ∀ name ∈ sub.name, Text.Plain name

/-- The tags that the nodes of a block show. -/
def shownTags (block : Block) : List ControlType :=
  if withTags then block.controls.map (·.kind) else []

/-- Nodes are those of a block, one for each piece of its instructions. The label of
each reads back as what it has to show, unless it is the first and the title of the
block is not plain. -/
def LabelsReadBack (id : BlockId) (nodes : List Node) : Prop :=
  ∃ block title texts, a.blockAt id = .ok block ∧ a.blockTitle block = .ok title ∧
    a.blockLines game block = .ok texts ∧ (a.NamesPlain → Text.Plain title) ∧
    List.Forall₂
      (fun node (piece, index) => node.name = ⟨block.address, index⟩ ∧
        (node.ReadsAs (pieceLabel (shownTags withTags block) title index piece) ↔
          (index = 0 → Text.Plain title)))
      nodes (partition texts).zipIdx

variable {a game withTags}

/-- The title of a block is a name. -/
theorem hasName_of_blockTitle {block : Block} {title : String}
    (h : a.blockTitle block = .ok title) : a.HasName title := by
  obtain ⟨label, hlabel, heq⟩ := bind_eq_ok_iff.mp h
  cases heq
  obtain ⟨first, _, hentry⟩ := bind_eq_ok_iff.mp hlabel
  refine hasName_getD (fun given hgiven => ?_) block.address
  cases hgiven
  exact hasName_of_entryLabel? hentry

/-- A title is plain where the names of all subroutines are. -/
theorem plain_blockTitle {block : Block} {title : String} (names : a.NamesPlain)
    (h : a.blockTitle block = .ok title) : Text.Plain title := by
  have hchar {c : Char} (hc : IsNameChar c) : Text.IsPlain c := by
    constructor <;> rintro rfl <;> revert hc <;> decide
  exact (hasName_of_blockTitle h).of_forall (fun made c hc => hchar (made.isNameText c hc)) names

/-- The nodes of a block read back, but for its title. -/
theorem labelsReadBack_of_showsBlock {id : BlockId} {nodes : List Node}
    (h : a.ShowsBlock game withTags id nodes) : a.LabelsReadBack game withTags id nodes := by
  obtain ⟨block, hblock, hnodes⟩ := h
  obtain ⟨title, htitle, hrest⟩ := bind_eq_ok_iff.mp hnodes
  obtain ⟨texts, htexts, heq⟩ := bind_eq_ok_iff.mp hrest
  cases heq
  refine ⟨block, title, texts, hblock, htitle, htexts,
    fun names => plain_blockTitle names htitle, ?_⟩
  rw [List.forall₂_map_left_iff, List.forall₂_same]
  rintro ⟨piece, index⟩ _
  refine ⟨rfl, Node.readsAs_pieceLabel_iff ?_ rfl⟩
  cases index <;> simp [shownTags]

/-- A cluster of a flowchart holds the blocks of its subroutine, in their order. -/
theorem labelsReadBack_cluster? {sub : SubRoutine} {cluster : Cluster}
    (h : a.cluster? game withTags sub = .ok (some cluster)) :
    List.Forall₂ (a.LabelsReadBack game withTags) sub.blocks cluster.blocks :=
  (shown_of_cluster? h).imp fun _ _ => labelsReadBack_of_showsBlock

/-- What is written of an accepted script declares the nodes of the charted blocks, and these
are the nodes of its clusters. Every label in it reads back as the tags, the title and the
instructions it was written for, but for titles that are not plain; and those are names that
the script gives. -/
theorem flowchart_labels_readBack (a : Analysis) (game : Game) (withTags : Bool)
    (accepted : a.check = .ok ()) :
    ∃ graph, a.flowchart game withTags = .ok graph ∧
      (a.printFlowchart game withTags).outputs = graph.pieces ∧
      (a.printFlowchart game withTags).text = .ok (written graph.statements) ∧
      graph.statements.filterMap Statement.node? =
        (graph.clusters.flatMap Cluster.blocks).flatten ∧
      (graph.statements.filterMap Statement.node?).map Node.name =
        a.charted.flatMap a.nodeNames ∧
      (∀ node, Statement.node node ∈ graph.statements →
        (Statement.node node).text = node.text) ∧
      ∀ cluster ∈ graph.clusters, ∃ sub ∈ a.subRoutines,
        List.Forall₂ (a.LabelsReadBack game withTags) sub.blocks cluster.blocks := by
  have wf := check_eq_ok_iff_wellFormed.mp accepted
  obtain ⟨graph, hgraph, _⟩ := (yields_flowchart wf game withTags).exists_value
  refine ⟨graph, hgraph, outputs_printFlowchart hgraph, text_printFlowchart wf hgraph,
    graph.filterMap_node?.trans graph.nodes_eq_flatten,
    graph.filterMap_node?.symm ▸ names_nodes wf hgraph, fun node _ => text_node node, ?_⟩
  intro cluster hcluster
  obtain ⟨sub, hsub, hsome⟩ := exists_of_mem_clusters hgraph hcluster
  exact ⟨sub, hsub, labelsReadBack_cluster? hsome⟩

/-- A block that is tagged and loads a text with a quote and a backslash in it. -/
def quotedConstant : Analysis where
  instructions := #[
    { address := 13, opcode := .const, operandType := .string
      bytes := [0, 5, 0x61, 0x22, 0x5C, 0x62, 0x6C], follower := some ⟨1⟩, block := some ⟨0⟩ },
    { address := 22, opcode := .retn, block := some ⟨0⟩ }]
  blocks := #[{ address := 13, instructions := [⟨0⟩, ⟨1⟩], subRoutine := ⟨0⟩
                controls := [{ kind := .whileHead }, { kind := .breaks }] }]
  subRoutines := #[{ address := 13, blocks := [⟨0⟩], name := some "main" }]

/-- The labels of the flowchart with the quoted constant read back. -/
theorem flowchart_labels_readBack_quotedConstant :
    quotedConstant.check = .ok () ∧
      ∃ graph, quotedConstant.flowchart {} true = .ok graph ∧
        (quotedConstant.printFlowchart {} true).text = .ok (written graph.statements) ∧
        graph.statements.filterMap Statement.node? =
          (graph.clusters.flatMap Cluster.blocks).flatten ∧
        ∀ cluster ∈ graph.clusters, ∃ sub ∈ quotedConstant.subRoutines,
          List.Forall₂ (quotedConstant.LabelsReadBack {} true) sub.blocks cluster.blocks := by
  obtain ⟨graph, hgraph, _, htext, hnodes, _, _, hlabels⟩ :=
    flowchart_labels_readBack quotedConstant {} true rfl
  exact ⟨rfl, graph, hgraph, htext, hnodes, hlabels⟩

/-- A block that begins a subroutine with quotes in its name. -/
def quotedName : Analysis where
  instructions := #[{ address := 13, opcode := .retn, block := some ⟨0⟩
                      addressType := .subRoutine }]
  blocks := #[{ address := 13, instructions := [⟨0⟩], subRoutine := ⟨0⟩ }]
  subRoutines := #[{ address := 13, blocks := [⟨0⟩], name := some "say \"hi\"" }]

/-- The node of the block with quotes in its title. -/
def quotedNameNode : Node where
  name := ⟨13, 0⟩
  title := some "say \"hi\""
  lines := ["RETN"]

/-- The label of the node ends at the first quote of the name. -/
theorem label_cut_quotedName :
    quotedName.check = .ok () ∧
      quotedName.flowchart {} false = .ok ⟨[⟨13, "say \"hi\"", [[quotedNameNode]]⟩], []⟩ ∧
      quotedNameNode.text =
        "    \"b0000000D_0\" [ shape=\"box\" label=\"" ++ "say \"hi\":\\l  RETN\\l\" ]\n" ∧
      readLabel "say \"hi\":\\l  RETN\\l\" ]\n" =
        some ({ lines := [], last := "say " }, "hi\":\\l  RETN\\l\" ]\n") ∧
      ¬ quotedNameNode.ReadsAs (pieceLabel [] "say \"hi\"" 0 ["RETN"]) := by
  refine ⟨rfl, by cbv, by cbv, by cbv, ?_⟩
  have hreads : quotedNameNode.ReadsAs (pieceLabel [] "say \"hi\"" 0 ["RETN"]) ↔
      (0 = 0 → Text.Plain "say \"hi\"") :=
    Node.readsAs_pieceLabel_iff rfl rfl
  rw [hreads]
  decide

end NwScript.Analysis
