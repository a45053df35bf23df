/-
# Ends of source texts

What a source text comes to, put together from what its functions come to. The
pieces that stand around them are written without fail, so a source text ends
like the first function that does not come to its end; and if one does not, not
even a part of the others is put out.
-/

import NwScript.Proofs.Transcript
import NwScript.Source.Program

namespace NwScript.Analysis

variable {a : Analysis} {game : Game}

/-- A function ends like its signature and its body, unless it would return
several values. -/
theorem result_printFunction (sub : SubRoutine) :
    (a.printFunction game sub).result =
      if 1 < sub.returns.length then
        .error (.error (.severalReturns sub.address sub.returns.length))
      else
        Outcome.ofResolved (a.signature game true sub) >>= fun _ =>
          (a.functionBody game sub).result := by
  rw [printFunction]
  by_cases hseveral : 1 < sub.returns.length
  · simp only [if_pos hseveral]
    rfl
  · simp only [if_neg hseveral, Transcript.result_bind, Transcript.result_liftM,
      Transcript.result_write, ok_bind]
    congr 1
    funext signature
    exact bind_pure_unit

/-- A source text ends like its global variables and its functions. -/
theorem result_printProgram :
    (a.printProgram game).result = (do
      a.globals.forM fun id => do
        let _ ← Outcome.ofResolved (a.globalText game id)
      a.subRoutines.toList.forM fun sub => (a.printFunction game sub).result) := by
  rw [printProgram]
  simp only [Transcript.result_bind, Transcript.result_forM, Transcript.result_liftM,
    Transcript.result_write, ok_bind]
  rfl

/-- The first analysis that has not been made ends a source text; if both have
been, the text ends like the program. -/
theorem result_printSource :
    (a.printSource game).result =
      if a.carries .stack = false then .error (.error (.notAnalyzed .stack))
      else if a.carries .controlFlow = false then .error (.error (.notAnalyzed .controlFlow))
      else (a.printProgram game).result := by
  rw [printSource]
  cases a.carries .stack with
  | false => rfl
  | true =>
      cases a.carries .controlFlow with
      | false => rfl
      | true =>
          show (((a.printProgram game).mapOutputs Piece.output).buffered >>= fun _ =>
            Transcript.log _).result = _
          rw [Transcript.result_bind, Transcript.result_buffered, Transcript.result_mapOutputs]
          exact bind_pure_unit

/-- A source text that does not come to its end puts out nothing. -/
theorem outputs_printSource_of_error {failure : Failure}
    (h : (a.printSource game).result = .error failure) : (a.printSource game).outputs = [] := by
  rw [result_printSource] at h
  rw [printSource]
  cases hstack : a.carries .stack with
  | false => rfl
  | true =>
      cases hflow : a.carries .controlFlow with
      | false => rfl
      | true =>
          have hprogram : ((a.printProgram game).mapOutputs Piece.output).result =
              .error failure := by
            simpa [hstack, hflow] using h
          have hbuffered : ((a.printProgram game).mapOutputs Piece.output).buffered.result =
              .error failure := by
            rw [Transcript.result_buffered, hprogram]
          show (((a.printProgram game).mapOutputs Piece.output).buffered >>= fun _ =>
            Transcript.log _).outputs = []
          rw [Transcript.outputs_bind_of_error hbuffered,
            Transcript.outputs_buffered_of_error hprogram]

/-- The pieces of a function: its head, its body and the brace that ends it. -/
theorem pieces_printFunction (sub : SubRoutine) :
    (a.printFunction game sub).pieces =
      if 1 < sub.returns.length then
        .error (.error (.severalReturns sub.address sub.returns.length))
      else do
        let signature ← Outcome.ofResolved (a.signature game true sub)
        let body ← (a.functionBody game sub).pieces
        return .text ("\n" ++ signature ++ " \x7b\n") :: (body ++ [.text "\x7d\n"]) := by
  rw [printFunction]
  by_cases hseveral : 1 < sub.returns.length
  · simp only [if_pos hseveral]
    rfl
  · simp only [if_neg hseveral, pure_bind, Transcript.pieces_liftM_bind, Transcript.pieces_bind,
      Transcript.pieces_write, ok_bind, bind_assoc]
    rfl

/-- The pieces of a source text: its head, its global variables and its functions. -/
theorem pieces_printProgram :
    (a.printProgram game).pieces = (do
      let globals ← a.globals.mapM fun id => Outcome.ofResolved (a.globalText game id)
      let functions ← a.subRoutines.toList.mapM fun sub => (a.printFunction game sub).pieces
      return .text "// Decompiled using ncsdis\n\n" ::
        (globals.map .text ++ functions.flatten)) := by
  have hglobal (id : VarId) : (do
      .write (.text (← Outcome.ofResolved (a.globalText game id))) :
        Transcript Piece Unit).pieces =
        (fun content => [.text content]) <$> Outcome.ofResolved (a.globalText game id) := by
    rw [Transcript.pieces_liftM_bind, map_eq_pure_bind]
    rfl
  have hflatten (globals : List String) :
      (globals.map fun content => [Piece.text content]).flatten = globals.map .text := by
    induction globals with
    | nil => rfl
    | cons content rest ih => simp [ih]
  rw [printProgram]
  simp only [Transcript.pieces_bind, Transcript.pieces_write, Transcript.pieces_forM, hglobal,
    mapM_map_comm, ok_bind]
  simp only [map_eq_pure_bind, bind_assoc, pure_bind, hflatten, List.singleton_append]

/-- A source text that comes to its end puts out the pieces of the program as one. -/
theorem outputs_printSource_of_ok (h : (a.printSource game).result = .ok ()) :
    (a.printSource game).outputs =
      [String.join ((a.printProgram game).outputs.map Piece.output)] := by
  rw [result_printSource] at h
  split at h
  · cases h
  · next hstack =>
      split at h
      · cases h
      · next hflow =>
          have hprogram : ((a.printProgram game).mapOutputs Piece.output).result = .ok () := h
          rw [Bool.not_eq_false] at hstack hflow
          rw [← Transcript.outputs_mapOutputs, printSource, hstack, hflow]
          show (((a.printProgram game).mapOutputs Piece.output).buffered >>= fun _ =>
            Transcript.log _).outputs = _
          rw [Transcript.outputs_bind_of_ok ((Transcript.result_buffered _).trans hprogram),
            Transcript.outputs_buffered_of_ok hprogram, Transcript.outputs_log, List.append_nil]

/-- A source text is what the pieces of the program are put out as. -/
theorem text_printSource :
    (a.printSource game).text =
      if a.carries .stack = false then .error (.error (.notAnalyzed .stack))
      else if a.carries .controlFlow = false then .error (.error (.notAnalyzed .controlFlow))
      else (fun pieces => String.join (pieces.map Piece.output)) <$>
        (a.printProgram game).pieces := by
  have hjoined (text : String) : String.join [text] = text := by simp
  cases hresult : (a.printSource game).result with
  | error failure =>
      rw [Transcript.text, hresult]
      rw [result_printSource] at hresult
      split_ifs at hresult ⊢
      · cases hresult
        rfl
      · cases hresult
        rfl
      · rw [Transcript.pieces, hresult]
        rfl
  | ok value =>
      rw [Transcript.text, outputs_printSource_of_ok hresult, hresult, hjoined]
      rw [result_printSource] at hresult
      split_ifs at hresult ⊢
      rw [Transcript.pieces, hresult]
      rfl

/-- A source text is put out as one piece, if there is one. -/
theorem outputs_printSource :
    (a.printSource game).outputs = (a.printSource game).text.toOption.toList := by
  cases hresult : (a.printSource game).result with
  | error failure =>
      rw [outputs_printSource_of_error hresult, Transcript.text, hresult]
      rfl
  | ok value =>
      rw [Transcript.text, outputs_printSource_of_ok hresult, hresult]
      simp [Except.map, Except.toOption]

/-- A source text that comes to its end is what the pieces of the program are put out as. -/
theorem text_printSource_eq_ok {text : String} (h : (a.printSource game).text = .ok text) :
    (a.printProgram game).result = .ok () ∧
      text = String.join ((a.printProgram game).outputs.map Piece.output) := by
  rw [text_printSource] at h
  split_ifs at h
  obtain ⟨pieces, hpieces, rfl⟩ := map_eq_ok_iff.mp h
  obtain ⟨_, hresult, rfl⟩ := map_eq_ok_iff.mp hpieces
  exact ⟨hresult, rfl⟩

/-- A source text that comes to its end holds the bodies of all functions. -/
theorem result_functionBody_of_printSource (h : (a.printSource game).result = .ok ())
    {sub : SubRoutine} (hsub : sub ∈ a.subRoutines) :
    (a.functionBody game sub).result = .ok () := by
  rw [result_printSource] at h
  split at h
  · cases h
  · split at h
    · cases h
    · rw [result_printProgram] at h
      obtain ⟨_, _, hfunctions⟩ := bind_eq_ok_iff.mp h
      have hfunction := succeeds_unit_iff.mp
        (succeeds_forM.mp ⟨(), hfunctions⟩ sub (Array.mem_toList_iff.mpr hsub))
      rw [result_printFunction] at hfunction
      split at hfunction
      · cases hfunction
      · obtain ⟨_, _, hbody⟩ := bind_eq_ok_iff.mp hfunction
        exact hbody

end NwScript.Analysis
