import CallGate.Bytes
import CallGate.Register

/-! The instructions regions are written in, and their machine code.

All operands are 64 bits wide, the stack pointer is never named, and jumps only go forward. -/

namespace CallGate.Machine

/-- The operations that combine two values and set every status flag. -/
inductive Operation where
  | add | or | adc | sbb | and | sub | xor
  /-- A subtraction of which only the flags are kept. -/
  | cmp
  deriving DecidableEq, Repr

/-- What the flags are asked. -/
inductive Question where
  | overflow
  | carry
  | zero
  /-- Carry or zero: not above, as unsigned numbers. -/
  | notAbove
  | sign
  | parity
  /-- Sign and overflow differ: less, as signed numbers. -/
  | less
  /-- Zero or less: not greater, as signed numbers. -/
  | notGreater
  deriving DecidableEq, Repr

/-- A question and whether its opposite is meant. -/
structure Condition where
  question : Question
  negated : Bool
  deriving DecidableEq, Repr

/-- One instruction. -/
inductive Instruction where
  | nop
  | clearCarry
  | setCarry
  | flipCarry
  | clearDirection
  | setDirection
  | ret
  | arithmetic (operation : Operation) (target source : Register)
  | arithmeticValue (operation : Operation) (target : Register) (value : UInt64)
  | test (left right : Register)
  | move (target source : Register)
  | exchange (left right : Register)
  | load (target : Register) (value : UInt64)
  | invert (target : Register)
  | negate (target : Register)
  | increment (target : Register)
  | decrement (target : Register)
  /-- The low byte becomes one if the condition holds and zero otherwise. -/
  | setIf (condition : Condition) (target : Register)
  /-- The low byte of the source fills the target. -/
  | zeroExtend (target source : Register)
  | jump (distance : Nat)
  | jumpIf (condition : Condition) (distance : Nat)
  deriving DecidableEq, Repr

/-- The operation with the given number. -/
def Operation.ofNumber (number : Nat) : Operation :=
  match number with
  | 0 => add
  | 1 => or
  | 2 => adc
  | 3 => sbb
  | 4 => and
  | 5 => sub
  | 6 => xor
  | _ => cmp

/-- The condition with the given number: two for each question, the second one negated. -/
def Condition.ofNumber (number : Nat) : Condition :=
  let question : Question :=
    match number / 2 with
    | 0 => .overflow
    | 1 => .carry
    | 2 => .zero
    | 3 => .notAbove
    | 4 => .sign
    | 5 => .parity
    | 6 => .less
    | _ => .notGreater
  ⟨question, number % 2 = 1⟩

/-- The register with the given number. The stack pointer has number four. -/
def register? (number : Nat) : Option Register :=
  match number with
  | 0 => some .rax
  | 1 => some .rcx
  | 2 => some .rdx
  | 3 => some .rbx
  | 5 => some .rbp
  | 6 => some .rsi
  | 7 => some .rdi
  | 8 => some .r8
  | 9 => some .r9
  | 10 => some .r10
  | 11 => some .r11
  | 12 => some .r12
  | 13 => some .r13
  | 14 => some .r14
  | 15 => some .r15
  | _ => none

/-- The two numbers in an operand byte that names registers only. -/
structure Operands where
  /-- The middle number: a register, or a part of the opcode. -/
  middle : Nat
  /-- The low number: a register. -/
  low : Nat

/-- Splits an operand byte. Any other form than registers only is refused. -/
def Operands.ofByte? (byte : UInt8) : Option Operands :=
  let number := byte.toNat
  if number < 192 then none else some ⟨number / 8 % 8, number % 8⟩

/-- The bits of a prefix that widen the operands and extend the register numbers. -/
structure Widening where
  wide : Bool
  /-- Added to the middle register number. -/
  middle : Nat
  /-- Added to the low register number. -/
  low : Nat

/-- The meaning of a prefix byte. -/
def Widening.ofByte (byte : UInt8) : Widening :=
  let number := byte.toNat
  ⟨number / 8 % 2 = 1, number / 4 % 2 * 8, number % 2 * 8⟩

/-- A byte as a signed number, spread over 64 bits. -/
def signExtend (byte : UInt8) : UInt64 :=
  if byte < 128 then byte.toUInt64 else byte.toUInt64 + 0xFFFFFFFFFFFFFF00

/-- An instruction of two registers: the low one is changed by the middle one. -/
def decodePair (opcode : Nat) (widening : Widening) (operands : Operands) : Option Instruction := do
  let source ← register? (widening.middle + operands.middle)
  let target ← register? (widening.low + operands.low)
  -- The eight operations have every eighth opcode from one on.
  if opcode % 8 = 1 ∧ opcode < 0x40 then
    return .arithmetic (Operation.ofNumber (opcode / 8)) target source
  else if opcode = 0x85 then return .test target source
  else if opcode = 0x89 then return .move target source
  else if opcode = 0x87 then return .exchange target source
  else none

/-- An instruction of one register, told apart by the middle number. -/
def decodeSingle (opcode : Nat) (widening : Widening) (operands : Operands) :
    Option Instruction := do
  let target ← register? (widening.low + operands.low)
  if opcode = 0xF7 ∧ operands.middle = 2 then return .invert target
  else if opcode = 0xF7 ∧ operands.middle = 3 then return .negate target
  else if opcode = 0xFF ∧ operands.middle = 0 then return .increment target
  else if opcode = 0xFF ∧ operands.middle = 1 then return .decrement target
  else none

/-- An instruction whose opcode has two bytes. -/
def decodeTwoByte (opcode : Nat) (widening : Widening) (operands : Operands) :
    Option Instruction := do
  let low ← register? (widening.low + operands.low)
  if 0x90 ≤ opcode ∧ opcode < 0xA0 then return .setIf (Condition.ofNumber (opcode - 0x90)) low
  else if opcode = 0xB6 ∧ widening.wide then
    let target ← register? (widening.middle + operands.middle)
    return .zeroExtend target low
  else none

/-- The instruction behind a prefix, and the code after it. -/
def decodeWidened (widening : Widening) : Bytes → Option (Instruction × Bytes)
  | 0x0F :: opcode :: operands :: rest => do
    let operands ← Operands.ofByte? operands
    let instruction ← decodeTwoByte opcode.toNat widening operands
    return (instruction, rest)
  | opcode :: rest =>
    if ¬ widening.wide then none
    else if opcode = 0x83 then
      match rest with
      | operands :: value :: rest => do
        let operands ← Operands.ofByte? operands
        let target ← register? (widening.low + operands.low)
        let operation := Operation.ofNumber operands.middle
        return (.arithmeticValue operation target (signExtend value), rest)
      | _ => none
    else if opcode &&& 0xF8 = 0xB8 then do
      let target ← register? (widening.low + opcode.toNat % 8)
      if 8 ≤ rest.length then
        return (.load target (Bytes.word64 (rest.take 8)), rest.drop 8)
      else none
    else
      match rest with
      | operands :: rest => do
        let operands ← Operands.ofByte? operands
        let instruction ←
          if opcode = 0xF7 ∨ opcode = 0xFF then decodeSingle opcode.toNat widening operands
          else decodePair opcode.toNat widening operands
        return (instruction, rest)
      | [] => none
  | [] => none

/-- The instruction at the front of code, and the code after it. -/
def decode : Bytes → Option (Instruction × Bytes)
  | [] => none
  | 0x90 :: rest => some (.nop, rest)
  | 0xF8 :: rest => some (.clearCarry, rest)
  | 0xF9 :: rest => some (.setCarry, rest)
  | 0xF5 :: rest => some (.flipCarry, rest)
  | 0xFC :: rest => some (.clearDirection, rest)
  | 0xFD :: rest => some (.setDirection, rest)
  | 0xC3 :: rest => some (.ret, rest)
  | opcode :: rest =>
    if opcode &&& 0xF0 = 0x40 then decodeWidened (Widening.ofByte opcode) rest
    else
      match rest with
      | distance :: rest =>
        -- Jumps with the sign bit set would go back.
        if 128 ≤ distance then none
        else if opcode = 0xEB then some (.jump distance.toNat, rest)
        else if opcode &&& 0xF0 = 0x70 then
          some (.jumpIf (Condition.ofNumber (opcode.toNat % 16)) distance.toNat, rest)
        else none
      | [] => none

end CallGate.Machine
