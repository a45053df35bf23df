/-
# Returns and what is declared of them

A return is written for every control structure that says so, in each block that is
written. Whether it returns a value, and which, is read off the block to return from:
nothing if the stack is empty at its end, else the variable at its beginning. The
signature of the function is made of the results of the subroutine. Nothing compares
the two, so the returns of a function agree with its signature exactly if what is
known of those blocks agrees with the results.
-/

import Mathlib
import NwScript.Proofs.Instruction.Alphabet
import NwScript.Proofs.Source.Indentation

namespace NwScript

/-- The statement that returns a variable, or nothing. -/
def returnStatement : Option Variable → String
  | none => "return;"
  | some var => "return " ++ var.name ++ ";"

namespace Analysis

/-- What a control structure returns, as the block to return from tells it. -/
def GivesBack (a : Analysis) (control : ControlStructure) (value : Option Variable) : Prop :=
  ∃ id target last leaving, control.returnBlock = some id ∧ a.blockAt id = .ok target ∧
    target.instructions.getLast? = some last ∧ a.instructionAt last = .ok leaving ∧
    match value with
    | none => leaving.stack = []
    | some var => leaving.stack ≠ [] ∧ ∃ first entering v,
        target.instructions.head? = some first ∧ a.instructionAt first = .ok entering ∧
        entering.operands.head? = some v ∧ a.variableAt v = .ok var

/-- A subroutine returns by a control structure: it is one of a block that the structure
of the subroutine reaches. -/
def ReturnsBy (a : Analysis) (sub : SubRoutine) (control : ControlStructure) : Prop :=
  ∃ entry id block, sub.blocks.head? = some entry ∧
    Relation.ReflTransGen a.Continues entry id ∧ a.blockAt id = .ok block ∧
    control ∈ block.controls ∧ control.kind = .returns

/-- A subroutine returns a value, by some control structure. -/
def Returns (a : Analysis) (sub : SubRoutine) (value : Option Variable) : Prop :=
  ∃ control, a.ReturnsBy sub control ∧ a.GivesBack control value

/-- What is returned agrees with the results that the signature is made of. -/
def Declares (a : Analysis) (game : Game) (sub : SubRoutine) : Option Variable → Prop
  | none => sub.returns = []
  | some var => sub.returns ≠ [] ∧ a.returnTypeName game sub = .ok (var.type.name game)

end Analysis

section Statements

/-- A character that stands in the line of a return. -/
def IsReturnChar (c : Char) : Prop := IsNameChar c ∨ c = ' ' ∨ c = ';'

instance : DecidablePred IsReturnChar := fun _ => inferInstanceAs (Decidable (_ ∨ _))

/-- A return is written without brackets and without braces. -/
theorem over_returnStatement (value : Option Variable) :
    Text.Over IsReturnChar (returnStatement value) := by
  cases value with
  | none => decide
  | some var =>
      have hname : Text.Over IsReturnChar var.name :=
        Text.Over.mono var.isNameText_name fun _ => .inl
      exact Text.over_append.mpr ⟨Text.over_append.mpr ⟨by decide, hname⟩, by decide⟩

/-- A return stays on its line. -/
theorem plain_returnStatement (value : Option Variable) : Plain (returnStatement value) := by
  refine ⟨fun hmem => ?_, ?_⟩
  · exact absurd (over_returnStatement value _ hmem) (by decide)
  · cases value <;> simp [returnStatement]

/-- No bracket and no brace stands in the line of a return. -/
theorem not_mem_returnLine {c : Char} (h : c = '(' ∨ c = '\x7b' ∨ c = '\x7d') (indent : Nat)
    (value : Option Variable) :
    c ∉ (SourceLine.text ⟨indent, returnStatement value⟩).toList := by
  have hkind : ¬ IsReturnChar c ∧ c ≠ '\t' ∧ c ≠ '\n' := by
    obtain rfl | rfl | rfl := h <;> decide
  simp only [SourceLine.text, Text.tabs, String.toList_append, String.toList_ofList,
    List.mem_append, not_or]
  refine ⟨⟨fun hmem => hkind.2.1 (List.eq_of_mem_replicate hmem), fun hmem => ?_⟩, fun hmem => ?_⟩
  · exact hkind.1 (over_returnStatement value c hmem)
  · exact hkind.2.2 (List.mem_singleton.mp hmem)

end Statements

section Readings

variable {a : Analysis} {game : Game} {block : Block} {reading : Reading}

/-- The first variable of an instruction is found if the instruction has any. -/
theorem Analysis.operand_zero_eq_ok_iff {instr : Instruction} {var : Variable} :
    a.operand instr 0 = .ok var ↔
      ∃ v, instr.operands.head? = some v ∧ a.variableAt v = .ok var := by
  rw [operand]
  cases instr.operands with
  | nil => simp
  | cons v rest => simp [Outcome.ofResolved_eq_ok_iff]

/-- What is returned is read off the block to return from. -/
theorem Analysis.returnText_eq_ok_iff {control : ControlStructure} {statement : String} :
    a.returnText block control = .ok statement ↔
      ∃ value, a.GivesBack control value ∧ statement = returnStatement value := by
  rw [returnText]
  constructor
  · intro h
    split at h
    · cases h
    · next id hreturn =>
        obtain ⟨target, htarget, h⟩ := bind_eq_ok_iff.mp h
        rw [Outcome.ofResolved_eq_ok_iff] at htarget
        split at h
        · next first last hfirst hlast =>
            obtain ⟨leaving, hleaving, h⟩ := bind_eq_ok_iff.mp h
            rw [Outcome.ofResolved_eq_ok_iff] at hleaving
            split at h
            · next hempty =>
                cases h
                exact ⟨none, ⟨id, target, last, leaving, hreturn, htarget, hlast, hleaving,
                  List.isEmpty_iff.mp hempty⟩, rfl⟩
            · next hstack =>
                obtain ⟨entering, hentering, h⟩ := bind_eq_ok_iff.mp h
                rw [Outcome.ofResolved_eq_ok_iff] at hentering
                obtain ⟨var, hvar, heq⟩ := bind_eq_ok_iff.mp h
                obtain ⟨v, hv, hfound⟩ := operand_zero_eq_ok_iff.mp hvar
                cases heq
                exact ⟨some var, ⟨id, target, last, leaving, hreturn, htarget, hlast, hleaving,
                  fun h => hstack (List.isEmpty_iff.mpr h), first, entering, v, hfirst,
                  hentering, hv, hfound⟩, rfl⟩
        · cases h
  · rintro ⟨value, ⟨id, target, last, leaving, hreturn, htarget, hlast, hleaving, hvalue⟩, rfl⟩
    cases value with
    | none =>
        have hstack : leaving.stack = [] := hvalue
        obtain ⟨first, rest, hids⟩ :=
          List.exists_cons_of_ne_nil (List.ne_nil_of_mem (List.mem_of_getLast? hlast))
        rw [hids] at hlast
        simp [hreturn, htarget, hids, hlast, hleaving, hstack, returnStatement]
        rfl
    | some var =>
        obtain ⟨hstack, first, entering, v, hfirst, hentering, hv, hfound⟩ := hvalue
        have hvar := operand_zero_eq_ok_iff.mpr ⟨v, hv, hfound⟩
        simp [hreturn, htarget, hfirst, hlast, hleaving, hentering, hvar, hstack, returnStatement]

/-- The returns among the clauses of a block are those of its control structures. -/
theorem Analysis.returns_mem_clauses_iff (h : a.readBlock game block = .ok reading)
    {statement : String} :
    .returns statement ∈ reading.clauses ↔ ∃ control ∈ block.controls,
      control.kind = .returns ∧ a.returnText block control = .ok statement := by
  obtain ⟨_, _, clauses, _, _, hclauses, rfl⟩ := readBlock_eq_ok_iff.mp h
  have hread := forall₂_of_mapM_eq_ok hclauses
  have hclause {control : ControlStructure} :
      a.readClause block control = .ok (some (.returns statement)) ↔
        control.kind = .returns ∧ a.returnText block control = .ok statement := by
    rw [readClause]
    cases control.kind with
    | returns => simp [bind_eq_ok_iff, pure, Except.pure]
    | ifCond => simp [bind_eq_ok_iff, pure, Except.pure]
    | _ => simp [pure, Except.pure]
  rw [List.mem_filterMap]
  constructor
  · rintro ⟨clause, hmem, rfl⟩
    obtain ⟨control, hcontrol, hfound⟩ := exists_of_forall₂ hread hmem
    exact ⟨control, hcontrol, hclause.mp hfound⟩
  · rintro ⟨control, hcontrol, hreturns⟩
    obtain ⟨clause, hmem, hfound⟩ := exists_of_forall₂ hread.flip hcontrol
    have hsame := (hclause.mpr hreturns).symm.trans hfound
    exact ⟨clause, hmem, (Except.ok.inj hsame).symm⟩

/-- A block leaves the line of a return to be written exactly if it has the return. -/
theorem Analysis.returnLine_mem_parts_iff (h : a.readBlock game block = .ok reading)
    (indent : Nat) (value : Option Variable) :
    (∃ k, .text (SourceLine.text ⟨k, returnStatement value⟩) ∈ reading.parts indent) ↔
      .returns (returnStatement value) ∈ reading.clauses := by
  constructor
  · rintro ⟨k, hmem⟩
    have hmark {content : String} (heq : SourceLine.text ⟨k, returnStatement value⟩ = content)
        {c : Char} (hc : c = '(' ∨ c = '\x7b' ∨ c = '\x7d') : c ∉ content.toList :=
      heq ▸ not_mem_returnLine hc k value
    simp only [Reading.parts, List.mem_append, List.mem_flatMap] at hmem
    obtain (hcall | htail) | ⟨clause, hclause, hpart⟩ := hmem
    · obtain ⟨_, call, _, _, hread, _, rfl⟩ := readBlock_eq_ok_iff.mp h
      cases call with
      | none => cases hcall
      | some call =>
          obtain ⟨_, _, _, _, _, _, rfl⟩ := exists_of_readCall hread
          have heq := Pending.text.inj (List.mem_singleton.mp hcall)
          exact absurd (by simp) (hmark heq (.inl rfl))
    · simp at htail
    · cases clause with
      | returns statement =>
          obtain ⟨control, _, _, htext⟩ := (returns_mem_clauses_iff h).mp hclause
          obtain ⟨other, _, rfl⟩ := returnText_eq_ok_iff.mp htext
          have heq := Pending.text.inj (List.mem_singleton.mp hpart)
          have hline := SourceLine.eq_of_text_eq ⟨k, returnStatement value⟩
            ⟨indent, returnStatement other⟩ (plain_returnStatement value)
            (plain_returnStatement other) heq
          have hsame : returnStatement value = returnStatement other :=
            congrArg SourceLine.content hline
          rw [hsame]
          exact hclause
      | conditional condition whenTrue whenFalse next =>
          have heq : SourceLine.text ⟨k, returnStatement value⟩ ∈
              [Text.tabs indent ++ "if (" ++ condition ++ ") \x7b\n", Text.tabs indent ++ "\x7d",
                " else \x7b\n", "\n"] := by
            cases whenTrue <;> cases whenFalse <;> cases next <;> simp [Clause.parts] at hpart ⊢ <;>
              tauto
          simp only [List.mem_cons, List.not_mem_nil, or_false] at heq
          obtain heq | heq | heq | heq := heq
          · exact absurd (by simp) (hmark heq (.inl rfl))
          · exact absurd (by simp) (hmark heq (.inr (.inr rfl)))
          · exact absurd (by simp) (hmark heq (.inr (.inl rfl)))
          · have hline := SourceLine.eq_of_text_eq ⟨k, returnStatement value⟩ ⟨0, ""⟩
              (plain_returnStatement value) (by decide) heq
            cases value <;> simp [returnStatement] at hline
  · intro hclause
    refine ⟨indent, ?_⟩
    simp only [Reading.parts, List.mem_append, List.mem_flatMap]
    exact .inr ⟨_, hclause, List.mem_singleton.mpr rfl⟩

end Readings

namespace Analysis

/-- The returns in the function of a subroutine agree with its signature. -/
def ReturnsAgree (a : Analysis) (game : Game) (sub : SubRoutine) : Prop :=
  ∀ indent value, .text (SourceLine.text ⟨indent, returnStatement value⟩) ∈
      (a.functionBody game sub).outputs →
    a.Returns sub value → a.Declares game sub value

section Functions

variable {a : Analysis} {game : Game} {sub : SubRoutine} (wf : a.WellFormed)
  (hsub : sub.WellFormed a) (h : (a.functionBody game sub).result = .ok ())

include wf hsub h

/-- The blocks by which a subroutine returns are read. -/
theorem ReturnsBy.reading {control : ControlStructure} (hcontrol : a.ReturnsBy sub control) :
    ∃ block reading indent, control ∈ block.controls ∧ control.kind = .returns ∧
      a.readBlock game block = .ok reading ∧
      ∀ content, Pending.text content ∈ reading.parts indent →
        .text content ∈ (a.functionBody game sub).outputs := by
  obtain ⟨entry, id, block, first, hid, found, hmem, hkind⟩ := hcontrol
  have hwritten := (mem_writtenBlocks_functionBody_iff wf hsub first h).mpr hid
  obtain ⟨indent, statements, hbody⟩ := mem_writtenBlocks_iff.mp hwritten
  obtain ⟨same, reading, hsame, hreading, _, hparts⟩ :=
    (piecesOwned_outline (outline_of_functionBody first h)).complete id indent statements hbody
  cases found.symm.trans hsame
  exact ⟨block, reading, indent, hmem, hkind, hreading, hparts⟩

/-- Each control structure by which a subroutine returns gives something back. -/
theorem ReturnsBy.exists_givesBack {control : ControlStructure}
    (hcontrol : a.ReturnsBy sub control) : ∃ value, a.GivesBack control value := by
  obtain ⟨block, reading, indent, hmem, hkind, hreading, _⟩ := hcontrol.reading wf hsub h
  obtain ⟨_, _, clauses, _, _, hclauses, _⟩ := readBlock_eq_ok_iff.mp hreading
  obtain ⟨clause, _, hclause⟩ := exists_of_forall₂ (forall₂_of_mapM_eq_ok hclauses).flip hmem
  have hread : a.readClause block control = .ok clause := hclause
  rw [readClause, hkind] at hread
  obtain ⟨statement, htext, _⟩ := bind_eq_ok_iff.mp hread
  obtain ⟨value, hvalue, _⟩ := returnText_eq_ok_iff.mp htext
  exact ⟨value, hvalue⟩

/-- A function has the lines of its returns and no others. -/
theorem returnLine_mem_functionBody_iff (value : Option Variable) :
    (∃ indent, .text (SourceLine.text ⟨indent, returnStatement value⟩) ∈
        (a.functionBody game sub).outputs) ↔
      ∃ given, a.Returns sub given ∧ returnStatement given = returnStatement value := by
  constructor
  · rintro ⟨indent, hline⟩
    cases hblocks : sub.blocks with
    | nil =>
        rw [functionBody, hblocks] at hline
        cases hline
    | cons entry rest =>
        have first : sub.blocks.head? = some entry := by rw [hblocks]; rfl
        obtain ⟨id, k, statements, block, reading, hbody, found, hreading, hpart⟩ :=
          (piecesOwned_outline (outline_of_functionBody first h)).sound _ hline
        have hid := (mem_writtenBlocks_functionBody_iff wf hsub first h).mp
          (mem_writtenBlocks_iff.mpr ⟨k, statements, hbody⟩)
        have hclause := (returnLine_mem_parts_iff hreading k value).mp ⟨indent, hpart⟩
        obtain ⟨control, hmem, hkind, htext⟩ := (returns_mem_clauses_iff hreading).mp hclause
        obtain ⟨given, hgiven, heq⟩ := returnText_eq_ok_iff.mp htext
        exact ⟨given, ⟨control, ⟨entry, id, block, first, hid, found, hmem, hkind⟩, hgiven⟩,
          heq.symm⟩
  · rintro ⟨given, ⟨control, hcontrol, hgiven⟩, heq⟩
    obtain ⟨block, reading, k, hmem, hkind, hreading, hparts⟩ := hcontrol.reading wf hsub h
    have hclause : .returns (returnStatement value) ∈ reading.clauses :=
      (returns_mem_clauses_iff hreading).mpr
        ⟨control, hmem, hkind, returnText_eq_ok_iff.mpr ⟨given, hgiven, heq.symm⟩⟩
    obtain ⟨indent, hpart⟩ := (returnLine_mem_parts_iff hreading k value).mpr hclause
    exact ⟨indent, hparts _ hpart⟩

omit h in
/-- A signature begins with the type that is returned. -/
theorem exists_signature (game : Game) (withNames : Bool) :
    ∃ result rest, a.returnTypeName game sub = .ok result ∧
      a.signature game withNames sub = .ok (result ++ " " ++ rest) := by
  obtain ⟨signature, hsignature, _⟩ := (yields_signature wf game withNames hsub).exists_value
  obtain ⟨label, hlabel, hafter⟩ := bind_eq_ok_iff.mp hsignature
  obtain ⟨result, hresult, hrest⟩ := bind_eq_ok_iff.mp hafter
  obtain ⟨params, hparams, heq⟩ := bind_eq_ok_iff.mp hrest
  cases heq
  refine ⟨result, label.getD (sub.nameAt sub.address) ++ "(" ++ ", ".intercalate params ++ ")",
    hresult, ?_⟩
  rw [hsignature]
  simp only [String.append_assoc]

end Functions

/-- The source text holds the function with its signature, which begins with a type, and that
is none if the subroutine has no results. In the function stand the returns of those control
structures that its structure reaches, each on a line of its own, and each of them returns
something. They agree with the signature exactly if at each of them the stack is empty where
there are no results and only there, and the variable that is returned otherwise has the type
of the result. -/
theorem returns_agree_iff (a : Analysis) (game : Game) (accepted : a.check = .ok ())
    (printed : ((a.printSource game).deliver none).result = .ok ()) (sub : SubRoutine)
    (listed : sub ∈ a.subRoutines) :
    (∃ text, (a.printSource game).text = .ok text ∧ a.HoldsFunction game sub text) ∧
      (∃ result rest, a.returnTypeName game sub = .ok result ∧
        a.signature game true sub = .ok (result ++ " " ++ rest) ∧
        (sub.returns = [] → result = "void")) ∧
      (∀ control, a.ReturnsBy sub control → ∃ value, a.GivesBack control value) ∧
      (∀ value, (∃ indent, .text (SourceLine.text ⟨indent, returnStatement value⟩) ∈
          (a.functionBody game sub).outputs) ↔
        ∃ given, a.Returns sub given ∧ returnStatement given = returnStatement value) ∧
      (a.ReturnsAgree game sub ↔ ∀ control, a.ReturnsBy sub control →
        ∀ value, a.GivesBack control value → (value = none ↔ sub.returns = []) ∧
          ∀ var, value = some var → a.returnTypeName game sub = .ok (var.type.name game)) := by
  have wf := check_eq_ok_iff_wellFormed.mp accepted
  have hsub := wf.subRoutines sub listed
  rw [Transcript.result_deliver] at printed
  have hbody := result_functionBody_of_printSource printed listed
  have hlines := returnLine_mem_functionBody_iff wf hsub hbody
  refine ⟨?text, ?signature, fun control hcontrol => hcontrol.exists_givesBack wf hsub hbody,
    hlines, ?agree⟩
  case text =>
    obtain ⟨text, htext, hfunctions⟩ := exists_text_of_result printed
    exact ⟨text, htext, hfunctions sub listed⟩
  case signature =>
    obtain ⟨result, rest, hresult, hsignature⟩ := exists_signature wf hsub game true
    refine ⟨result, rest, hresult, hsignature, fun hnone => ?_⟩
    rw [returnTypeName, hnone] at hresult
    exact (Except.ok.inj hresult).symm
  case agree =>
    constructor
    · intro hagree control hcontrol value hvalue
      have hreturns : a.Returns sub value := ⟨control, hcontrol, hvalue⟩
      obtain ⟨indent, hline⟩ := (hlines value).mpr ⟨value, hreturns, rfl⟩
      have hdeclares := hagree indent value hline hreturns
      cases value with
      | none =>
          refine ⟨iff_of_true rfl hdeclares, fun same hsame => ?_⟩
          cases hsame
      | some var =>
          refine ⟨iff_of_false (Option.some_ne_none var) hdeclares.1, fun same hsame => ?_⟩
          cases hsame
          exact hdeclares.2
    · intro hknown indent value _ hreturns
      obtain ⟨control, hcontrol, hvalue⟩ := hreturns
      obtain ⟨hempty, htype⟩ := hknown control hcontrol value hvalue
      cases value with
      | none => exact hempty.mp rfl
      | some var =>
          exact ⟨fun hnone => Option.some_ne_none var (hempty.mpr hnone), htype var rfl⟩

/-- A subroutine of one instruction, a return with a number on the stack. What its
results are said to be is open. -/
def returning (results : List VarId) : Analysis where
  instructions := #[
    { address := 13, opcode := .retn, operands := [⟨0⟩], stack := [⟨0⟩], block := some ⟨0⟩
      addressType := .subRoutine }]
  blocks := #[
    { address := 13, instructions := [⟨0⟩], subRoutine := ⟨0⟩
      controls := [{ kind := .returns, returnBlock := some ⟨0⟩ }] }]
  subRoutines := #[
    { address := 13, blocks := [⟨0⟩], returns := results, stackProgress := .finished }]
  vars := #[{ id := 1, type := .int }]
  hasStackAnalysis := true
  hasControlFlow := true

/-- With the number as its result, the function returns what it declares. -/
theorem returns_agree_returning :
    (returning [⟨0⟩]).check = .ok () ∧
      (((returning [⟨0⟩]).printSource {}).deliver none).result = .ok () ∧
      (returning [⟨0⟩]).ReturnsAgree {} (returning [⟨0⟩]).subRoutines[0] := by
  have accepted : (returning [⟨0⟩]).check = .ok () := rfl
  have printed : (((returning [⟨0⟩]).printSource {}).deliver none).result = .ok () := by cbv
  refine ⟨accepted, printed, ?_⟩
  obtain ⟨_, _, _, _, hagree⟩ := returns_agree_iff (returning [⟨0⟩]) {} accepted printed
    (returning [⟨0⟩]).subRoutines[0] (Array.getElem_mem _)
  refine hagree.mpr fun control hcontrol value hvalue => ?_
  obtain ⟨entry, id, block, first, hid, found, hmem, _⟩ := hcontrol
  cases first
  obtain rfl | ⟨next, ⟨same, hsame, hnext⟩, _⟩ := hid.cases_head
  · cases found
    cases List.mem_singleton.mp hmem
    obtain ⟨target, block, last, leaving, htarget, hblock, hlast, hleaving, hgiven⟩ := hvalue
    cases htarget
    cases hblock
    cases hlast
    cases hleaving
    cases value with
    | none => cases hgiven
    | some var =>
        obtain ⟨_, first, entering, v, hfirst, hentering, hv, hvar⟩ := hgiven
        cases hfirst
        cases hentering
        cases hv
        cases hvar
        exact ⟨iff_of_false (Option.some_ne_none _) (List.cons_ne_nil _ _),
          fun same hsame => by cases hsame; rfl⟩
  · cases hsame
    cases hnext

/-- Without a result, it returns the number all the same. -/
theorem value_returned_returning :
    (returning []).check = .ok () ∧
      ((returning []).printSource {}).text = .ok ("// Decompiled using ncsdis\n\n\n" ++
        "void sub_0000000D() \x7b\n\treturn var_1;\n\x7d\n") ∧
      (returning []).subRoutines[0].returns = [] ∧
      ¬ (returning []).ReturnsAgree {} (returning []).subRoutines[0] := by
  refine ⟨rfl, by cbv, rfl, fun hagree => ?_⟩
  have hline : .text (SourceLine.text ⟨1, returnStatement (some (returning []).vars[0])⟩) ∈
      ((returning []).functionBody {} (returning []).subRoutines[0]).outputs := by
    have hbody : ((returning []).functionBody {} (returning []).subRoutines[0]).outputs =
        [.body ⟨0⟩ 1 [], .text "\treturn var_1;\n"] := by cbv
    rw [hbody]
    decide
  have hreturns : (returning []).Returns (returning []).subRoutines[0]
      (some (returning []).vars[0]) :=
    ⟨_, ⟨⟨0⟩, ⟨0⟩, _, rfl, .refl, rfl, List.mem_cons_self, rfl⟩,
      ⟨0⟩, _, ⟨0⟩, _, rfl, rfl, rfl, rfl, List.cons_ne_nil _ _, ⟨0⟩, _, ⟨0⟩, rfl, rfl, rfl, rfl⟩
  exact (hagree 1 _ hline hreturns).1 rfl

end Analysis

end NwScript
