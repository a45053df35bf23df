/-
# References between the parts of a script

The parts of an analyzed script live in four arenas and name each other by
index. Each arena has an index type of its own, so that an instruction is never
looked up among the blocks. A `Reference` forgets the type again, for reports
about an index that leads nowhere.
-/

namespace NwScript

/-- The four collections that hold the parts of a script. -/
inductive Arena
  | instructions
  | blocks
  | subRoutines
  | vars
  deriving DecidableEq

/-- What one entry of the arena is called in a report. -/
def Arena.noun : Arena → String
  | instructions => "instruction"
  | blocks => "block"
  | subRoutines => "subroutine"
  | vars => "variable"

/-- An index together with the arena it points into. -/
structure Reference where
  arena : Arena
  index : UInt64
  deriving DecidableEq

/-- The index of an instruction. -/
structure InstrId where
  index : UInt64
  deriving DecidableEq

/-- The index of a block. -/
structure BlockId where
  index : UInt64
  deriving DecidableEq

/-- The index of a subroutine. -/
structure SubId where
  index : UInt64
  deriving DecidableEq

/-- The index of a variable. -/
structure VarId where
  index : UInt64
  deriving DecidableEq

/-- The reference an instruction index makes. -/
def InstrId.reference (id : InstrId) : Reference := ⟨.instructions, id.index⟩

/-- The reference a block index makes. -/
def BlockId.reference (id : BlockId) : Reference := ⟨.blocks, id.index⟩

/-- The reference a subroutine index makes. -/
def SubId.reference (id : SubId) : Reference := ⟨.subRoutines, id.index⟩

/-- The reference a variable index makes. -/
def VarId.reference (id : VarId) : Reference := ⟨.vars, id.index⟩

/-- The outcome of following references: what they lead to, or the first one
that lies outside its arena. -/
abbrev Resolved := Except Reference

end NwScript
