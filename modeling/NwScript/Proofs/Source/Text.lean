/-
# The text of a function

Pieces are put out one after the other: the statements of a block each on a line behind the
tabulators of its indent, and what stands between blocks as it is. A source text is a head,
the declarations of the global variables and the functions in the order of the subroutines;
a function is an empty line, its signature, and its pieces between two braces. So what is said
of the pieces of a function is said of a part of the source text.
-/

import NwScript.Proofs.Source.Program

namespace NwScript

/-- A line of source text. -/
structure SourceLine where
  indent : Nat
  content : String
  deriving DecidableEq

/-- The line as it is written. -/
def SourceLine.text (line : SourceLine) : String :=
  Text.tabs line.indent ++ line.content ++ "\n"

/-- The text of some pieces. -/
def textOf : List Piece → String
  | [] => ""
  | .body _ indent statements :: rest =>
      String.join (statements.map fun content => SourceLine.text ⟨indent, content⟩) ++ textOf rest
  | .text content :: rest => content ++ textOf rest

section Pieces

@[simp]
theorem textOf_nil : textOf [] = "" := rfl

@[simp]
theorem textOf_cons (piece : Piece) (pieces : List Piece) :
    textOf (piece :: pieces) = piece.output ++ textOf pieces := by
  cases piece <;> rfl

/-- Pieces are put out one after the other. -/
theorem textOf_eq_join (pieces : List Piece) :
    textOf pieces = String.join (pieces.map Piece.output) := by
  induction pieces with
  | nil => rfl
  | cons piece rest ih => rw [textOf_cons, ih, List.map_cons, String.join_cons]

@[simp]
theorem textOf_append (pieces others : List Piece) :
    textOf (pieces ++ others) = textOf pieces ++ textOf others := by
  simp [textOf_eq_join]

@[simp]
theorem textOf_flatten (parts : List (List Piece)) :
    textOf parts.flatten = String.join (parts.map textOf) := by
  rw [← List.flatMap_id, textOf_eq_join, join_map_flatMap]
  simp only [id, ← textOf_eq_join]

theorem textOf_text {content : String} : textOf [.text content] = content := by
  rw [textOf_cons, textOf_nil, String.append_empty]
  rfl

/-- Texts that stand between blocks are put out as they are. -/
theorem textOf_map_text (contents : List String) :
    textOf (contents.map .text) = String.join contents := by
  induction contents with
  | nil => rfl
  | cons content rest ih => rw [List.map_cons, textOf, ih, String.join_cons]

/-- A computation that puts out pieces has their text. -/
theorem Transcript.text_mapOutputs (t : Transcript Piece Unit) :
    (t.mapOutputs Piece.output).text = t.pieces.map textOf := by
  rw [Transcript.text, Transcript.pieces, Transcript.outputs_mapOutputs,
    Transcript.result_mapOutputs]
  cases t.result with
  | error failure => rfl
  | ok value => exact congrArg Except.ok (textOf_eq_join t.outputs).symm

end Pieces

namespace Analysis

variable {a : Analysis} {game : Game}

/-- A source text holds the function of a subroutine: its signature, and what its pieces are
written as between two braces. -/
def HoldsFunction (a : Analysis) (game : Game) (sub : SubRoutine) (text : String) : Prop :=
  ∃ before signature after, a.signature game true sub = .ok signature ∧
    text = before ++ ("\n" ++ signature ++ " \x7b\n" ++ textOf (a.functionBody game sub).outputs ++
      "\x7d\n") ++ after

/-- The pieces of a function are those of its body, with the signature before them. -/
theorem exists_of_pieces_printFunction {sub : SubRoutine} {pieces : List Piece}
    (h : (a.printFunction game sub).pieces = .ok pieces) :
    ∃ signature, a.signature game true sub = .ok signature ∧
      (a.functionBody game sub).result = .ok () ∧
      pieces = .text ("\n" ++ signature ++ " \x7b\n") ::
        ((a.functionBody game sub).outputs ++ [.text "\x7d\n"]) := by
  rw [pieces_printFunction] at h
  split at h
  · cases h
  · obtain ⟨signature, hsignature, h⟩ := bind_eq_ok_iff.mp h
    obtain ⟨body, hbody, heq⟩ := bind_eq_ok_iff.mp h
    obtain ⟨_, hresult, rfl⟩ := map_eq_ok_iff.mp hbody
    cases heq
    exact ⟨signature, Outcome.ofResolved_eq_ok_iff.mp hsignature, hresult, rfl⟩

/-- A function is its pieces between its signature and the brace that ends it. -/
theorem textOf_function (signature : String) (pieces : List Piece) :
    textOf (.text ("\n" ++ signature ++ " \x7b\n") :: (pieces ++ [.text "\x7d\n"])) =
      "\n" ++ signature ++ " \x7b\n" ++ textOf pieces ++ "\x7d\n" := by
  rw [textOf, textOf_append, textOf_text]
  simp only [String.append_assoc]

/-- A source text that comes to its end is its head, the declarations of the global variables,
and the functions of the subroutines, each in their order. -/
theorem exists_of_text_printSource {text : String} (h : (a.printSource game).text = .ok text) :
    ∃ globals functions,
      List.Forall₂ (fun id declared => a.globalText game id = .ok declared) a.globals globals ∧
      List.Forall₂ (fun sub function => ∃ signature, a.signature game true sub = .ok signature ∧
        function = "\n" ++ signature ++ " \x7b\n" ++ textOf (a.functionBody game sub).outputs ++
          "\x7d\n") a.subRoutines.toList functions ∧
      text = "// Decompiled using ncsdis\n\n" ++ String.join globals ++ String.join functions := by
  obtain ⟨hprogram, rfl⟩ := text_printSource_eq_ok h
  have hpieces := Transcript.pieces_of_ok hprogram
  rw [pieces_printProgram] at hpieces
  obtain ⟨globals, hglobals, hrest⟩ := bind_eq_ok_iff.mp hpieces
  obtain ⟨functions, hfunctions, heq⟩ := bind_eq_ok_iff.mp hrest
  refine ⟨globals, functions.map textOf,
    (forall₂_of_mapM_eq_ok hglobals).imp fun _ _ => Outcome.ofResolved_eq_ok_iff.mp, ?_, ?_⟩
  · rw [List.forall₂_map_right_iff]
    refine (forall₂_of_mapM_eq_ok hfunctions).imp fun sub pieces hfunction => ?_
    obtain ⟨signature, hsignature, _, rfl⟩ := exists_of_pieces_printFunction hfunction
    exact ⟨signature, hsignature, textOf_function signature _⟩
  · rw [← textOf_eq_join, ← Except.ok.inj heq, textOf, textOf_append, textOf_map_text,
      textOf_flatten, String.append_assoc]

/-- A source text holds the functions of all subroutines. -/
theorem holdsFunction_of_text {text : String} (h : (a.printSource game).text = .ok text)
    {sub : SubRoutine} (hsub : sub ∈ a.subRoutines) : a.HoldsFunction game sub text := by
  obtain ⟨globals, functions, _, hfunctions, rfl⟩ := exists_of_text_printSource h
  obtain ⟨function, hmem, signature, hsignature, rfl⟩ :=
    exists_of_forall₂ hfunctions.flip (Array.mem_toList_iff.mpr hsub)
  obtain ⟨before, after, rfl⟩ := List.append_of_mem hmem
  refine ⟨"// Decompiled using ncsdis\n\n" ++ String.join globals ++ String.join before, signature,
    String.join after, hsignature, ?_⟩
  rw [String.join_append, String.join_cons]
  simp only [String.append_assoc]

/-- A source text that comes to its end is a text with all functions in it. -/
theorem exists_text_of_result (h : (a.printSource game).result = .ok ()) :
    ∃ text, (a.printSource game).text = .ok text ∧
      ∀ sub ∈ a.subRoutines, a.HoldsFunction game sub text := by
  have htext : (a.printSource game).text = .ok (String.join (a.printSource game).outputs) := by
    rw [Transcript.text, h]
    rfl
  exact ⟨_, htext, fun sub hsub => holdsFunction_of_text htext hsub⟩

end Analysis

end NwScript
