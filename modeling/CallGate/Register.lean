import CallGate.Bytes

/-! The register file a client sends: fifteen general registers, the flags and the region token. -/

namespace CallGate

/-- The general-purpose registers, in the order they are laid out. -/
inductive Register where
  | r15 | r14 | r13 | r12 | r11 | r10 | r9 | r8
  | rdi | rsi | rbp | rbx | rdx | rcx | rax
  deriving DecidableEq, Repr

namespace Register

/-- Every general-purpose register, in layout order. -/
def all : List Register :=
  [r15, r14, r13, r12, r11, r10, r9, r8, rdi, rsi, rbp, rbx, rdx, rcx, rax]

/-- The place of a register in layout order, from zero. -/
def index : Register → Nat
  | r15 => 0 | r14 => 1 | r13 => 2 | r12 => 3 | r11 => 4 | r10 => 5 | r9 => 6 | r8 => 7
  | rdi => 8 | rsi => 9 | rbp => 10 | rbx => 11 | rdx => 12 | rcx => 13 | rax => 14

/-- Where the eight bytes of a register start in a serialized register file. -/
def offset (register : Register) : Nat := 8 * register.index

/-- The name of a register, in lower case. -/
def name : Register → String
  | r15 => "r15" | r14 => "r14" | r13 => "r13" | r12 => "r12" | r11 => "r11" | r10 => "r10"
  | r9 => "r9" | r8 => "r8" | rdi => "rdi" | rsi => "rsi" | rbp => "rbp" | rbx => "rbx"
  | rdx => "rdx" | rcx => "rcx" | rax => "rax"

/-- The name of a register with a capital first letter. -/
def title : Register → String
  | r15 => "R15" | r14 => "R14" | r13 => "R13" | r12 => "R12" | r11 => "R11" | r10 => "R10"
  | r9 => "R9" | r8 => "R8" | rdi => "Rdi" | rsi => "Rsi" | rbp => "Rbp" | rbx => "Rbx"
  | rdx => "Rdx" | rcx => "Rcx" | rax => "Rax"

/-- The register with the given capitalized name. -/
def ofTitle? (text : String) : Option Register := all.find? fun register => register.title == text

end Register

/-- The seventeen words of a register file. -/
inductive Slot where
  | general (register : Register)
  | flags
  | token
  deriving DecidableEq, Repr

namespace Slot

/-- Every slot, in layout order: the general registers, the flags, the token. -/
def all : List Slot := Register.all.map general ++ [flags, token]

/-- Where the eight bytes of a slot start in a serialized register file. -/
def offset : Slot → Nat
  | general register => register.offset
  | flags => 0x78
  | token => 0x80

/-- The name a slot is written under. -/
def name : Slot → String
  | general register => register.name
  | flags => "rflags"
  | token => "token"

/-- The slot with the given name. -/
def ofName? (text : String) : Option Slot := all.find? fun slot => slot.name == text

end Slot

/-- A full register file together with the token that selects the region to run. -/
structure RegisterFile where
  r15 : UInt64 := 0
  r14 : UInt64 := 0
  r13 : UInt64 := 0
  r12 : UInt64 := 0
  r11 : UInt64 := 0
  r10 : UInt64 := 0
  r9 : UInt64 := 0
  r8 : UInt64 := 0
  rdi : UInt64 := 0
  rsi : UInt64 := 0
  rbp : UInt64 := 0
  rbx : UInt64 := 0
  rdx : UInt64 := 0
  rcx : UInt64 := 0
  rax : UInt64 := 0
  rflags : UInt64 := 0
  token : UInt64 := 0
  deriving DecidableEq, Repr, Inhabited

namespace RegisterFile

/-- Serialized register files are seventeen eight-byte words long. -/
def size : Nat := 17 * 8

/-- All registers zero, selecting the given region. -/
def forToken (token : UInt64) : RegisterFile := { token }

/-- The value of a general-purpose register. -/
def get (file : RegisterFile) : Register → UInt64
  | .r15 => file.r15 | .r14 => file.r14 | .r13 => file.r13 | .r12 => file.r12
  | .r11 => file.r11 | .r10 => file.r10 | .r9 => file.r9 | .r8 => file.r8
  | .rdi => file.rdi | .rsi => file.rsi | .rbp => file.rbp | .rbx => file.rbx
  | .rdx => file.rdx | .rcx => file.rcx | .rax => file.rax

/-- The register file with one general-purpose register replaced. -/
def set (file : RegisterFile) (register : Register) (value : UInt64) : RegisterFile :=
  match register with
  | .r15 => { file with r15 := value }
  | .r14 => { file with r14 := value }
  | .r13 => { file with r13 := value }
  | .r12 => { file with r12 := value }
  | .r11 => { file with r11 := value }
  | .r10 => { file with r10 := value }
  | .r9 => { file with r9 := value }
  | .r8 => { file with r8 := value }
  | .rdi => { file with rdi := value }
  | .rsi => { file with rsi := value }
  | .rbp => { file with rbp := value }
  | .rbx => { file with rbx := value }
  | .rdx => { file with rdx := value }
  | .rcx => { file with rcx := value }
  | .rax => { file with rax := value }

/-- The word in a slot. -/
def read (file : RegisterFile) : Slot → UInt64
  | .general register => file.get register
  | .flags => file.rflags
  | .token => file.token

/-- The register file with the word in one slot replaced. -/
def write (file : RegisterFile) (slot : Slot) (value : UInt64) : RegisterFile :=
  match slot with
  | .general register => file.set register value
  | .flags => { file with rflags := value }
  | .token => { file with token := value }

/-- The register file holding the given word in each slot. -/
def ofSlots (word : Slot → UInt64) : RegisterFile where
  r15 := word (.general .r15)
  r14 := word (.general .r14)
  r13 := word (.general .r13)
  r12 := word (.general .r12)
  r11 := word (.general .r11)
  r10 := word (.general .r10)
  r9 := word (.general .r9)
  r8 := word (.general .r8)
  rdi := word (.general .rdi)
  rsi := word (.general .rsi)
  rbp := word (.general .rbp)
  rbx := word (.general .rbx)
  rdx := word (.general .rdx)
  rcx := word (.general .rcx)
  rax := word (.general .rax)
  rflags := word .flags
  token := word .token

/-- Collecting the words read from every slot gives the register file back. -/
theorem ofSlots_read (file : RegisterFile) : ofSlots file.read = file := rfl

/-- Reading a slot of a collected register file gives the word supplied for it. -/
theorem read_ofSlots (word : Slot → UInt64) (slot : Slot) :
    (ofSlots word).read slot = word slot := by
  -- Each of the fifteen registers names its own field.
  cases slot with
  | general register => cases register <;> rfl
  | flags => rfl
  | token => rfl

/-- A register file on the wire: every slot in layout order, least significant byte first. -/
def toBytes (file : RegisterFile) : FixedBytes size :=
  ⟨Slot.all.flatMap fun slot => Bytes.ofUInt64 (file.read slot), by
    simp [Slot.all, Register.all, Bytes.ofUInt64, size]⟩

/-- The register file a wire block stands for. -/
def ofBytes (block : FixedBytes size) : RegisterFile :=
  ofSlots fun slot => Bytes.word64 ((block.toList.drop slot.offset).take 8)

/-- One line naming every slot and its value, as shown to a developer. -/
def describe (file : RegisterFile) : String :=
  let fields := Slot.all.map fun slot => slot.name ++ ": " ++ toString (file.read slot).toNat
  "RegisterContext \x7b " ++ String.intercalate ", " fields ++ " \x7d"

end RegisterFile

end CallGate
