/-
# Signatures

A subroutine is declared by the type of its result, its name and the types of
its parameters. What these are is known once the stack has been analyzed.
-/

import NwScript.Naming.Label

namespace NwScript.Analysis

/-- The type a subroutine returns: that of its first result. -/
def returnTypeName (a : Analysis) (game : Game) (sub : SubRoutine) : Resolved String :=
  match sub.returns with
  | [] => pure "void"
  | first :: _ => do return (← a.variableAt first).type.name game

/-- One parameter of a declaration, with its name if names are wanted. -/
def parameterText (a : Analysis) (game : Game) (withNames : Bool) (param : VarId) :
    Resolved String := do
  let var ← a.variableAt param
  return if withNames then var.typedName game else var.type.name game

/-- The declaration of a subroutine: result type, name and parameters. -/
def signature (a : Analysis) (game : Game) (withNames : Bool) (sub : SubRoutine) :
    Resolved String := do
  let name := (← a.subRoutineLabel? sub).getD (sub.nameAt sub.address)
  let result ← a.returnTypeName game sub
  let params ← sub.params.mapM (a.parameterText game withNames)
  return result ++ " " ++ name ++ "(" ++ ", ".intercalate params ++ ")"

/-- The signature of a subroutine of which the analyses know it. The program's
entry, the initializer of the globals and stored states have none worth telling,
and neither has a subroutine whose stack is not completely known. -/
def knownSignature? (a : Analysis) (game : Game) (sub : SubRoutine) :
    Resolved (Option String) :=
  if a.hasStackAnalysis ∧ sub.kind = .none ∧ sub.stackProgress = .finished then
    some <$> a.signature game false sub
  else pure none

/-- The same for the subroutine an index leads to. Without a stack analysis the
index is not followed. -/
def knownSignatureAt? (a : Analysis) (game : Game) (id : SubId) :
    Resolved (Option String) :=
  if a.hasStackAnalysis then do a.knownSignature? game (← a.subRoutineAt id)
  else pure none

end NwScript.Analysis
