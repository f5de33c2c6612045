import CallGate.Machine.Execution
import CallGate.Region.Invoker

/-! The routine that exchanges the whole register file with memory around a call into a region. -/

namespace CallGate.Machine

/-- A processor with its memory. -/
structure Processor where
  /-- The general registers but the stack pointer. -/
  registers : Register → UInt64
  stackPointer : UInt64
  flags : UInt64
  memory : UInt64 → UInt8

/-- Where an operand in memory starts. -/
structure Place where
  /-- The register that points near it. Without one it is the stack pointer. -/
  base : Option Register
  displacement : UInt64
  deriving DecidableEq, Repr

/-- The instructions of the routine. -/
inductive Step where
  | pushFlags
  | popFlags
  | push (register : Register)
  | pop (register : Register)
  | pushWord (source : Place)
  | popWord (target : Place)
  | move (target source : Register)
  | exchange (register : Register) (place : Place)
  | load (target : Register) (source : Place)
  | store (target : Place) (source : Register)
  /-- Calls the code whose address is in memory. -/
  | call (target : Place)
  | ret
  deriving DecidableEq, Repr

namespace Processor

/-- The address of a place. -/
def address (processor : Processor) (place : Place) : UInt64 :=
  match place.base with
  | some register => processor.registers register + place.displacement
  | none => processor.stackPointer + place.displacement

/-- The eight bytes from an address as a word. -/
def word (processor : Processor) (address : UInt64) : UInt64 :=
  Bytes.word64 ((List.range 8).map fun place => processor.memory (address + UInt64.ofNat place))

/-- Replaces the eight bytes from an address. -/
def storeWord (processor : Processor) (address value : UInt64) : Processor :=
  let bytes := (Bytes.ofUInt64 value).toArray
  { processor with
    memory := fun place =>
      -- Addresses wrap around, so the distance decides whether a byte is meant.
      let distance := (place - address).toNat
      if distance < 8 then bytes.getD distance 0 else processor.memory place }

/-- Replaces one register. -/
def setRegister (processor : Processor) (register : Register) (value : UInt64) : Processor :=
  { processor with
    registers := fun other => if other = register then value else processor.registers other }

/-- Puts a word on the stack. -/
def pushValue (processor : Processor) (value : UInt64) : Processor :=
  let top := processor.stackPointer - 8
  { processor with stackPointer := top }.storeWord top value

/-- Takes a word off the stack. -/
def popValue (processor : Processor) : UInt64 × Processor :=
  (processor.word processor.stackPointer,
    { processor with stackPointer := processor.stackPointer + 8 })

/-- One instruction, with called code as a function of its address.

The called code takes the return address off the stack again. -/
def step (region : UInt64 → Processor → Processor) (returnAddress : UInt64)
    (processor : Processor) :
    Step → Processor
  | .pushFlags => processor.pushValue processor.flags
  | .popFlags =>
    let (value, processor) := processor.popValue
    { processor with flags := value }
  | .push register => processor.pushValue (processor.registers register)
  | .pop register =>
    let (value, processor) := processor.popValue
    processor.setRegister register value
  | .pushWord source => processor.pushValue (processor.word (processor.address source))
  | .popWord target =>
    let (value, processor) := processor.popValue
    processor.storeWord (processor.address target) value
  | .move target source => processor.setRegister target (processor.registers source)
  | .exchange register place =>
    let address := processor.address place
    let value := processor.word address
    (processor.storeWord address (processor.registers register)).setRegister register value
  | .load target source => processor.setRegister target (processor.word (processor.address source))
  | .store target source =>
    processor.storeWord (processor.address target) (processor.registers source)
  | .call target =>
    let entry := processor.word (processor.address target)
    region entry (processor.pushValue returnAddress)
  | .ret => processor.popValue.2

/-- A sequence of instructions. -/
def steps (region : UInt64 → Processor → Processor) (returnAddress : UInt64)
    (processor : Processor) (routine : List Step) : Processor :=
  routine.foldl (step region returnAddress) processor

end Processor

namespace Swap

/-- A slot of the register file that `rax` points to. -/
def slot (slot : Slot) : Place := ⟨some .rax, UInt64.ofNat slot.offset⟩

/-- A word so many bytes above the top of the stack. -/
def stack (displacement : UInt64) : Place := ⟨none, displacement⟩

/-- The registers that are exchanged while `rax` points to the register file. -/
def exchanged : List Register :=
  [.r15, .r14, .r13, .r12, .r11, .r10, .r9, .r8, .rdi, .rsi, .rbp, .rbx, .rdx, .rcx]

/-- Exchanges every register but `rax` with its slot. -/
def exchangeAll : List Step :=
  exchanged.map fun register => .exchange register (slot (.general register))

/-- The routine: `rdi` points to the register file and `rsi` to the region.

While the region runs, the slot of `rax` holds the pointer that `rax` held before. -/
def routine : List Step :=
  [.pushFlags, .push .rdi, .push .rsi, .move .rax .rdi] ++ exchangeAll ++
  [.pushWord (slot .flags), .popFlags, .exchange .rax (slot (.general .rax)),
    .call (stack 0), .exchange .rax (stack 8)] ++ exchangeAll ++
  [.load .rcx (stack 8), .store (slot (.general .rax)) .rcx,
    .pushFlags, .popWord (slot .flags), .pop .rcx, .pop .rdx, .popFlags, .ret]

/-- The register file in memory at an address. -/
def readFile (processor : Processor) (base : UInt64) : RegisterFile :=
  .ofSlots fun slot => processor.word (base + UInt64.ofNat slot.offset)

/-- A region as seen by the processor: it changes registers and flags, then returns. -/
def region (effect : RegisterFile → RegisterFile) (processor : Processor) : Processor :=
  let after := effect (.ofSlots fun
    | .general register => processor.registers register
    | .flags => processor.flags
    | .token => 0)
  { processor.popValue.2 with registers := after.get, flags := after.rflags }

/-- Where the register file lies during a call. -/
def fileAddress : UInt64 := 0x10000

/-- The top of the stack at a call. -/
def stackTop : UInt64 := 0x20000

/-- A processor about to call the routine on a register file. -/
def prepared (file : RegisterFile) : Processor :=
  let bytes := file.toBytes.toList.toArray
  { registers := fun register => if register = .rdi then fileAddress else 0
    stackPointer := stackTop
    flags := 0
    memory := fun place => bytes.getD (place - fileAddress).toNat 0 }

/-- Runs a region through the routine. -/
def enter (effect : RegisterFile → RegisterFile) (file : RegisterFile) : RegisterFile :=
  readFile ((prepared file).steps (fun _ => region effect) 0 routine) fileAddress

end Swap

/-- Enters blocks as machine code, through the exchange routine. -/
def trampoline : Trampoline Unit where
  enter block file state := (Swap.enter (run block.code) file, state)

end CallGate.Machine
