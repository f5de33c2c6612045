import CallGate.Region.Invoker

/-! Scripted changes of a register file, which stand in for what a region does. -/

namespace CallGate

/-- How a slot changes. Sums and products wrap around. -/
inductive Operation where
  | set
  | add
  | multiply
  | exclusiveOr
  | conjunction
  | disjunction
  deriving DecidableEq, Repr

namespace Operation

/-- Every operation. -/
def all : List Operation := [set, add, multiply, exclusiveOr, conjunction, disjunction]

/-- The name of an operation in scripts. -/
def name : Operation → String
  | set => "set"
  | add => "add"
  | multiply => "mul"
  | exclusiveOr => "xor"
  | conjunction => "and"
  | disjunction => "or"

/-- The operation with the given name. -/
def ofName? (text : String) : Option Operation := all.find? fun operation => operation.name == text

/-- The word a slot holds after an operation. -/
def apply (old operand : UInt64) : Operation → UInt64
  | set => operand
  | add => old + operand
  | multiply => old * operand
  | exclusiveOr => old ^^^ operand
  | conjunction => old &&& operand
  | disjunction => old ||| operand

end Operation

/-- One change of one slot. -/
structure Effect where
  slot : Slot
  operation : Operation
  operand : UInt64
  deriving DecidableEq, Repr

namespace Effect

/-- The register file after a change. -/
def apply (file : RegisterFile) (effect : Effect) : RegisterFile :=
  file.write effect.slot (effect.operation.apply (file.read effect.slot) effect.operand)

/-- The same changes, in order, at every entry. -/
def script (effects : List Effect) : Trampoline (Rehearsal Unit) :=
  Rehearsal.trampoline fun file state => (effects.foldl apply file, state)

end Effect

end CallGate
