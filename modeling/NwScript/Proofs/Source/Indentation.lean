/-
# The indentation of a source text

The body of a function is made of lines, and what a line says is said by one block:
a statement, a call, a return, or the head, the turn or the end of a conditional. A
line stands one step in for the function around it, and one step further for each
branch that it is nested in. The blocks of these branches are open at the time, and
each for its own step; so no line stands further in than there are blocks.

What a line says may hold tabulators and line feeds of its own, from a name or a
constant. If it has no line feed and does not begin with a tabulator, then the steps
of the line are the tabulators that a reader of the text sees in front of it. So a line
that the reader sees further in than there are blocks is part of one that says
something else; a constant can bring that about.
-/

import Mathlib
import NwScript.Proofs.Source.Nesting
import NwScript.Proofs.Source.Paths
import NwScript.Proofs.Resolution.Source

namespace NwScript

section Saying

/-- What a control structure says on lines of its own. -/
inductive Clause.Says : Clause → String → Prop
  | statement (content : String) : Says (.returns content) content
  | head (condition : String) (whenTrue whenFalse next : Option BlockId) :
      Says (.conditional condition whenTrue whenFalse next) ("if (" ++ condition ++ ") \x7b")
  | turn (condition : String) (whenTrue : Option BlockId) (whenFalse : BlockId)
      (next : Option BlockId) :
      Says (.conditional condition whenTrue (some whenFalse) next) "\x7d else \x7b"
  | ending (condition : String) (whenTrue whenFalse next : Option BlockId) :
      Says (.conditional condition whenTrue whenFalse next) "\x7d"

/-- What a block says on lines of its own. -/
inductive Reading.Says (reading : Reading) : String → Prop
  | statement {content : String} (mem : content ∈ reading.statements) : reading.Says content
  | call {content : String} (same : reading.call = some content) : reading.Says content
  | clause {content : String} {clause : Clause} (mem : clause ∈ reading.clauses)
      (h : clause.Says content) : reading.Says content

/-- What some block of a script says on lines of its own. -/
def Analysis.Says (a : Analysis) (game : Game) (content : String) : Prop :=
  ∃ id block reading, a.blockAt id = .ok block ∧ a.readBlock game block = .ok reading ∧
    reading.Says content

end Saying

/-- A text is made of lines with a property, none of them further in than a bound. -/
def Lined (holds : String → Prop) (bound : Nat) (text : String) : Prop :=
  ∃ lines : List SourceLine, text = String.join (lines.map SourceLine.text) ∧
    ∀ line ∈ lines, line.indent ≤ bound ∧ holds line.content

namespace Lined

variable {holds : String → Prop} {bound indent : Nat}

protected theorem empty : Lined holds bound "" := ⟨[], rfl, nofun⟩

/-- A line is made of itself. -/
protected theorem line {content : String} (hindent : indent ≤ bound) (h : holds content) :
    Lined holds bound (SourceLine.text ⟨indent, content⟩) := by
  refine ⟨[⟨indent, content⟩], by simp, fun other hother => ?_⟩
  rw [List.mem_singleton.mp hother]
  exact ⟨hindent, h⟩

/-- Lines stay lines if others come behind them. -/
protected theorem append {text others : String} (htext : Lined holds bound text)
    (hothers : Lined holds bound others) : Lined holds bound (text ++ others) := by
  obtain ⟨lines, rfl, hlines⟩ := htext
  obtain ⟨more, rfl, hmore⟩ := hothers
  refine ⟨lines ++ more, by simp, fun line hline => ?_⟩
  exact (List.mem_append.mp hline).elim (hlines line) (hmore line)

end Lined

section Pieces

/-- The statements of a block are lines. -/
theorem textOf_body {id : BlockId} {indent : Nat} {statements : List String} :
    textOf [.body id indent statements] =
      String.join (statements.map fun content => SourceLine.text ⟨indent, content⟩) := by
  rw [textOf_cons, textOf_nil, String.append_empty]
  rfl

/-- So are calls and returns. -/
theorem textOf_linePiece {indent : Nat} {content : String} :
    textOf [linePiece indent content] = SourceLine.text ⟨indent, content⟩ :=
  textOf_text

/-- A conditional without a second branch ends with a brace on a line. -/
theorem textOf_ending {indent : Nat} :
    textOf ([closePiece indent] ++ [] ++ [.text "\n"]) = SourceLine.text ⟨indent, "\x7d"⟩ := by
  simp [closePiece, Piece.output, SourceLine.text, String.append_assoc]

/-- Where there is one, the brace before it is on one line with the words that begin
it. -/
theorem textOf_turn {indent : Nat} {inner : List Piece} :
    textOf ([closePiece indent] ++ ([.text " else \x7b\n"] ++ inner ++ [closePiece indent]) ++
        [.text "\n"]) =
      SourceLine.text ⟨indent, "\x7d else \x7b"⟩ ++ textOf inner ++
        SourceLine.text ⟨indent, "\x7d"⟩ := by
  have hwords : "\x7d" ++ " else \x7b\n" = "\x7d else \x7b" ++ "\n" := rfl
  simp only [textOf_append, textOf_cons, textOf_nil, closePiece, Piece.output,
    SourceLine.text, String.append_assoc, String.append_empty, ← hwords]

/-- A conditional begins with a line of its own. -/
theorem textOf_conditional {indent : Nat} {condition : String} {first second rest : List Piece} :
    textOf ([.text (Text.tabs indent ++ "if (" ++ condition ++ ") \x7b\n")] ++ first ++
        [closePiece indent] ++ second ++ [.text "\n"] ++ rest) =
      SourceLine.text ⟨indent, "if (" ++ condition ++ ") \x7b"⟩ ++ textOf first ++
        textOf ([closePiece indent] ++ second ++ [.text "\n"]) ++ textOf rest := by
  have hwords : ") \x7b\n" = ") \x7b" ++ "\n" := rfl
  simp only [textOf_append, textOf_cons, textOf_nil, Piece.output, SourceLine.text,
    String.append_assoc, String.append_empty, hwords]

end Pieces

section Keeping

/-- A property of texts at an indent that the empty text has, and that texts keep when they
follow each other. -/
structure Additive (holds : Nat → String → Prop) : Prop where
  empty (indent : Nat) : holds indent ""
  append {indent : Nat} {text others : String} (htext : holds indent text)
    (hothers : holds indent others) : holds indent (text ++ others)

/-- What the blocks below are written as has the property at their indents. -/
def Below.Keeps (below : Below) (holds : Nat → String → Prop) : Prop :=
  ∀ indent id pieces, below indent id = .ok pieces → holds indent (textOf pieces)

/-- A return has the property, and a conditional has it around branches that have it one
step further in. -/
def Clause.Keeps (holds : Nat → String → Prop) (indent : Nat) : Clause → Prop
  | returns statement => holds indent (SourceLine.text ⟨indent, statement⟩)
  | conditional condition _ none _ =>
      ∀ inner, holds (indent + 1) inner →
        holds indent (SourceLine.text ⟨indent, "if (" ++ condition ++ ") \x7b"⟩ ++ inner ++
          SourceLine.text ⟨indent, "\x7d"⟩)
  | conditional condition _ (some _) _ =>
      ∀ inner second, holds (indent + 1) inner → holds (indent + 1) second →
        holds indent (SourceLine.text ⟨indent, "if (" ++ condition ++ ") \x7b"⟩ ++ inner ++
          (SourceLine.text ⟨indent, "\x7d else \x7b"⟩ ++ second ++
            SourceLine.text ⟨indent, "\x7d"⟩))

/-- What a block says itself has the property. -/
structure Reading.Keeps (reading : Reading) (holds : Nat → String → Prop) (indent : Nat) :
    Prop where
  statements : ∀ content ∈ reading.statements, holds indent (SourceLine.text ⟨indent, content⟩)
  call : ∀ content ∈ reading.call, holds indent (SourceLine.text ⟨indent, content⟩)
  clauses : ∀ clause ∈ reading.clauses, clause.Keeps holds indent

variable {holds : Nat → String → Prop} (additive : Additive holds) {indent : Nat}
  {pieces : List Piece}

include additive

/-- Any number of texts keep it. -/
theorem Additive.join {texts : List String} (h : ∀ text ∈ texts, holds indent text) :
    holds indent (String.join texts) := by
  induction texts with
  | nil => exact additive.empty indent
  | cons text rest ih =>
      rw [List.forall_mem_cons] at h
      rw [String.join_cons]
      exact additive.append h.1 (ih h.2)

variable {below : Below} (hbelow : below.Keeps holds)

include hbelow

/-- A block that may be missing has the property. -/
theorem Below.Keeps.optional {id : Option BlockId} (h : below.optional indent id = .ok pieces) :
    holds indent (textOf pieces) := by
  cases id with
  | none =>
      cases h
      exact additive.empty indent
  | some id => exact hbelow indent id pieces h

/-- A control structure is written with the property. -/
theorem Clause.Keeps.write {clause : Clause} (hclause : clause.Keeps holds indent)
    (h : clause.write below indent = .ok pieces) : holds indent (textOf pieces) := by
  cases clause with
  | returns statement =>
      cases h
      rw [textOf_linePiece]
      exact hclause
  | conditional condition whenTrue whenFalse next =>
      obtain ⟨first, hfirst, hafter⟩ := bind_eq_ok_iff.mp h
      obtain ⟨second, hsecond, hend⟩ := bind_eq_ok_iff.mp hafter
      obtain ⟨rest, hrest, hpieces⟩ := bind_eq_ok_iff.mp hend
      cases hpieces
      have hinner := hbelow.optional additive hfirst
      rw [textOf_conditional]
      refine additive.append ?_ (hbelow.optional additive hrest)
      -- The brace of the first branch is on one line with the words that begin the second.
      cases whenFalse with
      | none =>
          cases hsecond
          rw [textOf_ending]
          exact hclause _ hinner
      | some id =>
          obtain ⟨inner, hother, hbetween⟩ := bind_eq_ok_iff.mp hsecond
          cases hbetween
          rw [textOf_turn]
          exact hclause _ _ hinner (hbelow _ id inner hother)

/-- So is a block. -/
theorem Reading.Keeps.write {reading : Reading} (hreading : reading.Keeps holds indent)
    {id : BlockId} (h : reading.write below indent id = .ok pieces) :
    holds indent (textOf pieces) := by
  obtain ⟨tail, htail, hafter⟩ := bind_eq_ok_iff.mp h
  obtain ⟨clauses, hclauses, hpieces⟩ := bind_eq_ok_iff.mp hafter
  cases hpieces
  have hstatements : holds indent (textOf [.body id indent reading.statements]) := by
    rw [textOf_body]
    exact additive.join (List.forall_mem_map.mpr hreading.statements)
  have hcall : holds indent (textOf (reading.call.map (linePiece indent)).toList) := by
    cases hsame : reading.call with
    | none => exact additive.empty indent
    | some content =>
        rw [Option.map_some, Option.toList_some, textOf_linePiece]
        exact hreading.call content hsame
  have hrest : holds indent (textOf clauses.flatten) := by
    rw [textOf_flatten]
    refine additive.join (List.forall_mem_map.mpr fun written hwritten => ?_)
    obtain ⟨clause, hmem, hclause⟩ := exists_of_mapM_eq_ok hclauses hwritten
    exact (hreading.clauses clause hmem).write additive hbelow hclause
  rw [textOf_append, textOf_append, textOf_append]
  exact additive.append (additive.append (additive.append hstatements hcall)
    (hbelow.optional additive htail)) hrest

end Keeping

section Outlines

/-- What the blocks below are written as is made of lines, up to an indent. -/
def Below.IsLined (below : Below) (holds : String → Prop) (bound limit : Nat) : Prop :=
  ∀ indent id pieces, indent ≤ limit → below indent id = .ok pieces →
    Lined holds bound (textOf pieces)

section Lines

variable {holds : String → Prop} {bound indent : Nat}

/-- A control structure is made of lines, around branches that are. -/
theorem Clause.keeps_lined {clause : Clause}
    (hclause : ∀ content, clause.Says content → holds content) (hindent : indent ≤ bound) :
    clause.Keeps (fun k text => k ≤ indent + 1 → Lined holds bound text) indent := by
  have line {content : String} (h : holds content) :
      Lined holds bound (SourceLine.text ⟨indent, content⟩) := .line hindent h
  cases clause with
  | returns statement => exact fun _ => line (hclause _ (.statement statement))
  | conditional condition whenTrue whenFalse next =>
      have hhead := line (hclause _ (.head condition whenTrue whenFalse next))
      have hending := line (hclause _ (.ending condition whenTrue whenFalse next))
      cases whenFalse with
      | none => exact fun _ hinner _ => (hhead.append (hinner le_rfl)).append hending
      | some id =>
          have hturn := line (hclause _ (.turn condition whenTrue id next))
          exact fun _ _ hinner hsecond _ => (hhead.append (hinner le_rfl)).append
            ((hturn.append (hsecond le_rfl)).append hending)

/-- A block is made of lines if what is below it is. -/
theorem Below.IsLined.reading {below : Below} {reading : Reading} {id : BlockId}
    {pieces : List Piece} (hbelow : below.IsLined holds bound (indent + 1))
    (hindent : indent ≤ bound) (h : reading.write below indent id = .ok pieces)
    (hreading : ∀ content, reading.Says content → holds content) :
    Lined holds bound (textOf pieces) := by
  have additive : Additive fun k text => k ≤ indent + 1 → Lined holds bound text :=
    { empty := fun _ _ => .empty
      append := fun htext hothers hk => (htext hk).append (hothers hk) }
  have hkeeps : reading.Keeps (fun k text => k ≤ indent + 1 → Lined holds bound text) indent :=
    { statements := fun content hmem _ => .line hindent (hreading content (.statement hmem))
      call := fun content hsame _ => .line hindent (hreading content (.call hsame))
      clauses := fun clause hmem => Clause.keeps_lined (fun content hsays =>
        hreading content (.clause hmem hsays)) hindent }
  exact hkeeps.write additive (fun k child inner hinner hk => hbelow k child inner hk hinner) h
    (Nat.le_succ indent)

end Lines

variable {a : Analysis} {game : Game}

/-- The outline of a block is made of lines, if the block is not further in than the
branches that are open allow. -/
theorem Analysis.lined_outline {opened : List BlockId} {indent : Nat} {id : BlockId}
    {pieces : List Piece} (nodup : opened.Nodup)
    (inside : ∀ other ∈ opened, other.index.toNat < a.blocks.size)
    (hindent : indent ≤ opened.length + 1)
    (h : a.outline game opened indent id = .ok pieces) :
    Lined (a.Says game) a.blocks.size (textOf pieces) := by
  -- A block is entered only while it is closed, so there is a step left for it.
  induction opened, indent, id using outline.induct a generalizing pieces with
  | case1 opened indent id reference found =>
      rw [outline_of_error found] at h
      cases h
  | case2 opened indent id block found mem =>
      rw [outline_of_mem found mem] at h
      cases h
      exact .empty
  | case3 opened indent id block found fresh ih =>
      rw [outline_of_not_mem found fresh] at h
      obtain ⟨reading, hreading, hwrite⟩ := bind_eq_ok_iff.mp h
      have hnodup : (id :: opened).Nodup := List.nodup_cons.mpr ⟨fresh, nodup⟩
      have hinside : ∀ other ∈ id :: opened, other.index.toNat < a.blocks.size :=
        List.forall_mem_cons.mpr ⟨Walk.inside_of_blockAt found, inside⟩
      have hlength : (id :: opened).length ≤ a.blocks.size := Walk.length_le_of_nodup hnodup hinside
      rw [List.length_cons] at hlength
      have hbelow : Below.IsLined (a.outline game (id :: opened)) (a.Says game) a.blocks.size
          (indent + 1) := by
        intro k child inner hk hinner
        refine ih k child hnodup hinside ?_ hinner
        rw [List.length_cons]
        omega
      exact hbelow.reading (by omega) hwrite fun content hsays =>
        ⟨id, block, reading, found, hreading, hsays⟩

/-- So is the body of a function. -/
theorem Analysis.lined_printFrom {entry : BlockId} {text : String}
    (h : ((a.printFrom game entry 1).mapOutputs Piece.output).text = .ok text) :
    Lined (a.Says game) a.blocks.size text := by
  rw [Transcript.text_mapOutputs, pieces_printFrom] at h
  obtain ⟨pieces, hpieces, rfl⟩ := map_eq_ok_iff.mp h
  exact lined_outline List.nodup_nil nofun (Nat.le_refl 1) hpieces

end Outlines

section Reader

/-- The lines of a text, as line feeds part it. -/
def linesOf (text : String) : List (List Char) := List.splitOn '\n' text.toList

/-- How far a line stands in. -/
def indentation (line : List Char) : Nat := (line.takeWhile fun c => c == '\t').length

/-- What stays on the line that it is written on, and adds no step to it. -/
def Plain (content : String) : Prop :=
  '\n' ∉ content.toList ∧ content.toList.head? ≠ some '\t'

instance (content : String) : Decidable (Plain content) :=
  inferInstanceAs (Decidable (_ ∧ _))

/-- The characters of a line, up to its end. -/
def SourceLine.chars (line : SourceLine) : List Char :=
  List.replicate line.indent '\t' ++ line.content.toList

theorem SourceLine.toList_text (line : SourceLine) : line.text.toList = line.chars ++ ['\n'] := by
  simp [text, chars, Text.tabs]

/-- What is plain does not end its line. -/
theorem SourceLine.not_mem_chars {line : SourceLine} (h : Plain line.content) :
    '\n' ∉ line.chars := by
  intro hmem
  rcases List.mem_append.mp hmem with htab | hcontent
  · exact absurd (List.eq_of_mem_replicate htab) (by decide)
  · exact h.1 hcontent

theorem SourceLine.toList_unended (line : SourceLine) :
    (Text.tabs line.indent ++ line.content).toList = line.chars := by
  simp [chars, Text.tabs]

/-- The lines that are read of a line stand before those of what follows it. -/
theorem linesOf_text_append (line : SourceLine) (rest : String) :
    linesOf (line.text ++ rest) =
      linesOf (Text.tabs line.indent ++ line.content) ++ linesOf rest := by
  rw [linesOf, linesOf, line.toList_unended, String.toList_append, line.toList_text,
    List.append_assoc, List.singleton_append, List.splitOn_append_cons_self]
  rfl

/-- What stays on its line is read back as one. -/
theorem linesOf_plain {line : SourceLine} (h : Plain line.content) :
    linesOf (Text.tabs line.indent ++ line.content) = [line.chars] := by
  rw [linesOf, line.toList_unended, List.splitOn_eq_singleton (SourceLine.not_mem_chars h)]

/-- A plain content leaves the tabulators of its line as they are. -/
theorem indentation_chars {line : SourceLine} (h : Plain line.content) :
    indentation line.chars = line.indent := by
  have hcontent : line.content.toList.takeWhile (fun c => c == '\t') = [] := by
    cases hchars : line.content.toList with
    | nil => rfl
    | cons c rest =>
        have hc : c ≠ '\t' := fun heq => h.2 (by rw [hchars, heq, List.head?_cons])
        simp [hc]
  rw [indentation, SourceLine.chars,
    List.takeWhile_append_of_pos fun c hc => by simp [List.eq_of_mem_replicate hc],
    hcontent, List.append_nil, List.length_replicate]

/-- Lines that say what is plain are told apart by their texts. -/
theorem SourceLine.eq_of_text_eq (line other : SourceLine) (hline : Plain line.content)
    (hother : Plain other.content) (h : line.text = other.text) : line = other := by
  have hlines := congrArg (fun text => linesOf (text ++ "")) h
  simp only [linesOf_text_append, linesOf_plain hline, linesOf_plain hother, List.cons_append,
    List.cons.injEq, and_true] at hlines
  have hindent := congrArg indentation hlines
  rw [indentation_chars hline, indentation_chars hother] at hindent
  rw [SourceLine.chars, SourceLine.chars, hindent, List.append_cancel_left_eq,
    String.toList_inj] at hlines
  cases line
  cases other
  cases hindent
  cases hlines
  rfl

/-- A line that is read further in than any line is written is part of one that is not plain. -/
theorem SourceLine.exists_of_lt_indentation {lines : List SourceLine} {bound : Nat}
    (hlines : ∀ line ∈ lines, line.indent ≤ bound) {read : List Char}
    (hread : read ∈ linesOf (String.join (lines.map text))) (hfar : bound < indentation read) :
    ∃ line ∈ lines, ¬ Plain line.content ∧
      read ∈ linesOf (Text.tabs line.indent ++ line.content) := by
  induction lines with
  | nil =>
      rw [List.mem_singleton.mp hread] at hfar
      exact absurd hfar (Nat.not_lt_zero bound)
  | cons first rest ih =>
      rw [List.forall_mem_cons] at hlines
      rw [List.map_cons, String.join_cons, linesOf_text_append, List.mem_append] at hread
      rcases hread with hown | hrest
      · refine ⟨first, List.mem_cons_self, fun hplain => ?_, hown⟩
        rw [linesOf_plain hplain, List.mem_singleton] at hown
        rw [hown, indentation_chars hplain] at hfar
        exact absurd hlines.1 (Nat.not_le.mpr hfar)
      · obtain ⟨line, hline, hfound⟩ := ih hlines.2 hrest
        exact ⟨line, List.mem_cons_of_mem first hline, hfound⟩

end Reader

section Bodies

/-- The walk that writes the body of a function. -/
def Walk.ofBody (entry : BlockId) : Walk := { work := [.pending (.block entry 1)] }

/-- In an accepted script, whatever its blocks name, the walk from any block comes to
an end: at an error that is reported, or with nothing left to be done and no block
open. Wherever it comes on its way, the open blocks are those that the stack will
close, each with one marker, and they are no more than there are blocks. The text of
the walk is made of lines that blocks say, none written further in than there are blocks;
so a line of the text that has more tabulators in front belongs to one that says something
with a line feed in it or a tabulator at its beginning. -/
theorem Analysis.walk_ends_and_nests (a : Analysis) (game : Game) (accepted : a.check = .ok ())
    {entry : BlockId} (inside : entry.index.toNat < a.blocks.size) :
    (∃ last result done, Walk.Reaches a game (.ofBody entry) last ∧
        last.step a game = .ended result done ∧
        a.printFrom game entry 1 = ⟨done.reverse, result⟩ ∧
        ((∃ error, result = .error (.error error)) ∨
          result = .ok () ∧ last.work = [] ∧ last.opened = [])) ∧
      (∀ walk, Walk.Reaches a game (.ofBody entry) walk →
        (∀ id, walk.work.count (.close id) = if id ∈ walk.opened then 1 else 0) ∧
          walk.opened.Nodup ∧ walk.opened.length ≤ a.blocks.size ∧
          (walk.work = [] → walk.opened = [])) ∧
      ∀ text, ((a.printFrom game entry 1).mapOutputs Piece.output).text = .ok text →
        text = textOf (a.printFrom game entry 1).outputs ∧
          ∃ lines : List SourceLine, text = String.join (lines.map SourceLine.text) ∧
            (∀ line ∈ lines, line.indent ≤ a.blocks.size ∧ a.Says game line.content) ∧
            ∀ read ∈ linesOf text, a.blocks.size < indentation read →
              ∃ line ∈ lines, ¬ Plain line.content ∧
                read ∈ linesOf (Text.tabs line.indent ++ line.content) := by
  have wf := check_eq_ok_iff_wellFormed.mp accepted
  refine ⟨?_, ?_, ?_⟩
  · obtain ⟨last, result, done, hreaches, hend, hrun⟩ := Walk.exists_end a game (.ofBody entry)
    have hprint : a.printFrom game entry 1 = ⟨done.reverse, result⟩ := hrun
    refine ⟨last, result, done, hreaches, hend, hprint, ?_⟩
    have hentry : entry.reference.Resolves a := inside
    have hsettles := settles_printFrom wf game hentry 1
    rw [hprint] at hsettles
    cases result with
    | error failure =>
        obtain ⟨error, rfl⟩ := hsettles.of_error rfl
        exact .inl ⟨error, rfl⟩
    | ok value =>
        -- Only an empty stack ends a walk without an error.
        cases Walk.stops_of_ended hend with
        | finished opened done =>
            exact .inr ⟨rfl, rfl, (Walk.nests_of_reaches hreaches).opened_eq_nil rfl⟩
  · intro walk hreaches
    have hnests := Walk.nests_of_reaches hreaches
    exact ⟨hnests.count_close, hnests.nodup, hnests.length_opened_le, hnests.opened_eq_nil⟩
  · intro text htext
    obtain ⟨lines, heq, hlines⟩ := lined_printFrom htext
    rw [Transcript.text_mapOutputs] at htext
    obtain ⟨pieces, hpieces, hwritten⟩ := map_eq_ok_iff.mp htext
    obtain ⟨_, _, rfl⟩ := map_eq_ok_iff.mp hpieces
    refine ⟨hwritten.symm, lines, heq, hlines, fun read hread hfar => ?_⟩
    rw [heq] at hread
    exact SourceLine.exists_of_lt_indentation (fun line hline => (hlines line hline).1) hread hfar

/-- What the entry of the script says. -/
theorem Analysis.readBlock_sharedJoin_entry :
    sharedJoin.readBlock {} sharedJoin.blocks[0] = .ok
      { statements := ["int var_1 = 0;"], call := none, tail := none
        clauses := [.conditional "var_1" (some ⟨0⟩) none (some ⟨1⟩),
          .conditional "var_1" (some ⟨1⟩) none (some ⟨1⟩)] } := by cbv

/-- What the block at which its conditionals meet says. -/
theorem Analysis.readBlock_sharedJoin_join :
    sharedJoin.readBlock {} sharedJoin.blocks[1] = .ok
      { statements := ["int var_2 = 0;"], call := none, tail := none, clauses := [] } := by cbv

/-- What the two blocks of the script say is plain. -/
theorem Analysis.plain_sharedJoin (content : String) (h : sharedJoin.Says {} content) :
    Plain content := by
  obtain ⟨id, block, reading, found, hreading, hsays⟩ := h
  have hblock : block = sharedJoin.blocks[0] ∨ block = sharedJoin.blocks[1] := by
    have hmem := Array.mem_of_getElem? (getElem?_of_blockAt found)
    simpa [sharedJoin] using hmem
  rcases hblock with rfl | rfl
  · rw [readBlock_sharedJoin_entry] at hreading
    cases hreading
    cases hsays with
    | statement mem =>
        rw [List.mem_singleton.mp mem]
        decide
    | call same => cases same
    | clause mem h =>
        rcases List.mem_cons.mp mem with rfl | mem
        · cases h <;> decide
        · rw [List.mem_singleton.mp mem] at h
          cases h <;> decide
  · rw [readBlock_sharedJoin_join] at hreading
    cases hreading
    cases hsays with
    | statement mem =>
        rw [List.mem_singleton.mp mem]
        decide
    | call same => cases same
    | clause mem => cases mem

/-- The walk over blocks that name themselves and each other ends, and its lines stand
in by two steps at most. -/
theorem Analysis.walk_ends_and_nests_sharedJoin :
    sharedJoin.check = .ok () ∧ 0 < sharedJoin.blocks.size ∧
      (∃ last result done, Walk.Reaches sharedJoin {} (.ofBody ⟨0⟩) last ∧
        last.step sharedJoin {} = .ended result done) ∧
      ∃ text, ((sharedJoin.printFrom {} ⟨0⟩ 1).mapOutputs Piece.output).text = .ok text ∧
        Lined (sharedJoin.Says {}) 2 text ∧ ∀ line ∈ linesOf text, indentation line ≤ 2 := by
  have inside : (⟨0⟩ : BlockId).index.toNat < sharedJoin.blocks.size := by decide
  obtain ⟨⟨last, result, done, hreaches, hend, _⟩, _, htext⟩ :=
    walk_ends_and_nests sharedJoin {} rfl inside
  have hbody : ((sharedJoin.printFrom {} ⟨0⟩ 1).mapOutputs Piece.output).text = .ok
      ("\tint var_1 = 0;\n\tif (var_1) \x7b\n\t\x7d\n\tint var_2 = 0;\n\tif (var_1) \x7b\n" ++
        "\t\tint var_2 = 0;\n\t\x7d\n\tint var_2 = 0;\n") := by cbv
  obtain ⟨_, lines, heq, hlines, hfar⟩ := htext _ hbody
  refine ⟨rfl, inside, ⟨last, result, done, hreaches, hend⟩, _, hbody, ⟨lines, heq, hlines⟩, ?_⟩
  intro read hread
  by_contra hmore
  obtain ⟨line, hline, hplain, _⟩ := hfar read hread (Nat.not_le.mp hmore)
  exact hplain (plain_sharedJoin _ (hlines line hline).2)

/-- A script of one block, which loads a text of a line feed, three tabulators and a letter. -/
def tabbedConstant : Analysis where
  instructions := #[
    { address := 13, opcode := .const, operandType := .string, bytes := [0, 5, 10, 9, 9, 9, 97]
      operands := [⟨0⟩], block := some ⟨0⟩, addressType := .subRoutine }]
  blocks := #[{ address := 13, instructions := [⟨0⟩], subRoutine := ⟨0⟩ }]
  subRoutines := #[
    { address := 13, blocks := [⟨0⟩], name := some "main", stackProgress := .finished }]
  vars := #[{ id := 1, type := .string }]
  hasStackAnalysis := true
  hasControlFlow := true

/-- The text is written as it is, so a line of the body has three tabulators in front, though
there is but one block. -/
theorem Analysis.indentation_tabbedConstant :
    tabbedConstant.check = .ok () ∧ tabbedConstant.blocks.size = 1 ∧
      ((tabbedConstant.printFrom {} ⟨0⟩ 1).mapOutputs Piece.output).text =
        .ok "\tstring var_1 = \"\n\t\t\ta\";\n" ∧
      ¬ ∀ line ∈ linesOf "\tstring var_1 = \"\n\t\t\ta\";\n", indentation line ≤ 1 := by
  refine ⟨rfl, rfl, by cbv, fun hlines => ?_⟩
  have hread : linesOf "\tstring var_1 = \"\n\t\t\ta\";\n" =
      ["\tstring var_1 = \"".toList, "\t\t\ta\";".toList, []] := by cbv
  rw [hread] at hlines
  exact absurd (hlines "\t\t\ta\";".toList (by simp)) (by decide)

end Bodies

end NwScript
