import CallGate.Flags
import CallGate.Machine.Instruction

/-! What instructions do to the registers and the status flags. -/

namespace CallGate.Machine

/-- The status flags an operation leaves. -/
structure Outcome where
  carry : Bool
  overflow : Bool
  /-- Zero, sign and parity follow from the value. -/
  value : UInt64

/-- The highest bit. -/
def isNegative (value : UInt64) : Bool := 0x8000000000000000 ≤ value

/-- The low byte has an even number of ones. -/
def hasEvenParity (value : UInt64) : Bool :=
  ((List.range 8).countP fun place => value.toNat.testBit place) % 2 = 0

/-- Writes an outcome to the flags and leaves all other bits alone. -/
def Outcome.record (outcome : Outcome) (flags : Flags) : Flags :=
  ((((flags.assign Flags.carryBit outcome.carry).assign
    Flags.overflowBit outcome.overflow).assign
    Flags.zeroBit (outcome.value == 0)).assign
    Flags.signBit (isNegative outcome.value)).assign
    Flags.parityBit (hasEvenParity outcome.value)

/-- A sum with an incoming carry. -/
def sum (left right : UInt64) (carry : Bool) : Outcome :=
  let incoming := if carry then 1 else 0
  let value := left + right + UInt64.ofNat incoming
  { value
    carry := UInt64.size ≤ left.toNat + right.toNat + incoming
    -- Two numbers of one sign cannot add up to one of the other.
    overflow := isNegative left == isNegative right && isNegative value != isNegative left }

/-- A difference with an incoming borrow. -/
def difference (left right : UInt64) (borrow : Bool) : Outcome :=
  let incoming := if borrow then 1 else 0
  let value := left - right - UInt64.ofNat incoming
  { value
    carry := left.toNat < right.toNat + incoming
    overflow := isNegative left != isNegative right && isNegative value != isNegative left }

/-- A bitwise result never carries. -/
def bitwise (value : UInt64) : Outcome := ⟨false, false, value⟩

/-- The outcome of an operation under a carry flag. -/
def Operation.apply (operation : Operation) (left right : UInt64) (carry : Bool) : Outcome :=
  match operation with
  | add => sum left right false
  | adc => sum left right carry
  | sub | cmp => difference left right false
  | sbb => difference left right carry
  | or => bitwise (left ||| right)
  | and => bitwise (left &&& right)
  | xor => bitwise (left ^^^ right)

/-- The answer of the flags to a condition. -/
def Condition.holds (condition : Condition) (flags : Flags) : Bool :=
  let answer :=
    match condition.question with
    | .overflow => flags.overflow
    | .carry => flags.carry
    | .zero => flags.zero
    | .notAbove => flags.carry || flags.zero
    | .sign => flags.sign
    | .parity => flags.parity
    | .less => flags.sign != flags.overflow
    | .notGreater => flags.zero || flags.sign != flags.overflow
  answer != condition.negated

/-- The flags of a register file. -/
def flags (file : RegisterFile) : Flags := ⟨file.rflags⟩

/-- Records an outcome in the flags of a register file. -/
def settle (file : RegisterFile) (outcome : Outcome) : RegisterFile :=
  { file with rflags := (outcome.record (flags file)).bits }

/-- Records an outcome, and its value in a register. -/
def settleIn (file : RegisterFile) (target : Register) (outcome : Outcome) : RegisterFile :=
  (settle file outcome).set target outcome.value

/-- Combines a register with a value. A comparison keeps the register. -/
def combine (file : RegisterFile) (operation : Operation) (target : Register) (value : UInt64) :
    RegisterFile :=
  let outcome := operation.apply (file.get target) value (flags file).carry
  if operation = .cmp then settle file outcome else settleIn file target outcome

/-- Sets or clears one flag. -/
def assignFlag (file : RegisterFile) (bit : UInt64) (on : Bool) : RegisterFile :=
  { file with rflags := ((flags file).assign bit on).bits }

/-- The register file after an instruction that is no jump and no return. -/
def Instruction.execute (instruction : Instruction) (file : RegisterFile) : RegisterFile :=
  match instruction with
  | nop | ret | jump _ | jumpIf _ _ => file
  | clearCarry => assignFlag file Flags.carryBit false
  | setCarry => assignFlag file Flags.carryBit true
  | flipCarry => assignFlag file Flags.carryBit (!(flags file).carry)
  | clearDirection => assignFlag file Flags.directionBit false
  | setDirection => assignFlag file Flags.directionBit true
  | arithmetic operation target source => combine file operation target (file.get source)
  | arithmeticValue operation target value => combine file operation target value
  | test left right => settle file (bitwise (file.get left &&& file.get right))
  | move target source => file.set target (file.get source)
  | exchange left right =>
    (file.set left (file.get right)).set right (file.get left)
  | load target value => file.set target value
  | invert target => file.set target (~~~file.get target)
  | negate target => settleIn file target (difference 0 (file.get target) false)
  | increment target =>
    -- Counting leaves the carry flag alone.
    let outcome := sum (file.get target) 1 false
    settleIn file target { outcome with carry := (flags file).carry }
  | decrement target =>
    let outcome := difference (file.get target) 1 false
    settleIn file target { outcome with carry := (flags file).carry }
  | setIf condition target =>
    let byte : UInt64 := if condition.holds (flags file) then 1 else 0
    file.set target ((file.get target &&& 0xFFFFFFFFFFFFFF00) ||| byte)
  | zeroExtend target source => file.set target (file.get source &&& 0xFF)

/-- Runs code until it returns.

Every instruction uses up at least one byte, so the length of the code bounds the steps. Code
that is no instruction ends the run where it stands. -/
def runSteps : (steps : Nat) → Bytes → RegisterFile → RegisterFile
  | 0, _, file => file
  | steps + 1, code, file =>
    match decode code with
    | none => file
    | some (.ret, _) => file
    | some (.jump distance, rest) => runSteps steps (rest.drop distance) file
    | some (.jumpIf condition distance, rest) =>
      let rest := if condition.holds (flags file) then rest.drop distance else rest
      runSteps steps rest file
    | some (instruction, rest) => runSteps steps rest (instruction.execute file)

/-- Runs code until it returns. -/
def run (code : Bytes) (file : RegisterFile) : RegisterFile := runSteps code.length code file

end CallGate.Machine
