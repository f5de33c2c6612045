import CallGate.Numeral

/-! The flags register: status bits report arithmetic outcomes, all others govern the processor. -/

namespace CallGate

/-- A value of the flags register. -/
structure Flags where
  /-- The register as a 64-bit word. -/
  bits : UInt64
  deriving DecidableEq, Repr, Inhabited

namespace Flags

/-- Carry, bit 0. -/
def carryBit : UInt64 := 0x1
/-- Parity, bit 2. -/
def parityBit : UInt64 := 0x4
/-- Zero, bit 6. -/
def zeroBit : UInt64 := 0x40
/-- Sign, bit 7. -/
def signBit : UInt64 := 0x80
/-- Trap, bit 8. -/
def trapBit : UInt64 := 0x100
/-- Interrupt enable, bit 9. -/
def interruptEnableBit : UInt64 := 0x200
/-- String direction, bit 10. -/
def directionBit : UInt64 := 0x400
/-- Overflow, bit 11. -/
def overflowBit : UInt64 := 0x800
/-- The two bits of the I/O privilege level, bits 12 and 13. -/
def privilegeBits : UInt64 := 0x3000
/-- Nested task, bit 14. -/
def nestedTaskBit : UInt64 := 0x4000
/-- Resume, bit 16. -/
def resumeBit : UInt64 := 0x10000
/-- Virtual-8086 mode, bit 17. -/
def virtualModeBit : UInt64 := 0x20000
/-- Alignment check, bit 18. -/
def alignmentCheckBit : UInt64 := 0x40000
/-- Virtual interrupt, bit 19. -/
def virtualInterruptBit : UInt64 := 0x80000
/-- Virtual interrupt pending, bit 20. -/
def virtualInterruptPendingBit : UInt64 := 0x100000
/-- Identification, bit 21. -/
def identificationBit : UInt64 := 0x200000

/-- The only bits a remote party may influence. -/
def statusMask : UInt64 := carryBit ||| parityBit ||| zeroBit ||| signBit ||| overflowBit

/-- Every named bit that governs the processor. -/
def controlMask : UInt64 :=
  trapBit ||| interruptEnableBit ||| directionBit ||| privilegeBits ||| nestedTaskBit |||
  resumeBit ||| virtualModeBit ||| alignmentCheckBit ||| virtualInterruptBit |||
  virtualInterruptPendingBit ||| identificationBit

/-- All bits of the mask are set. -/
def contains (flags : Flags) (mask : UInt64) : Bool := flags.bits &&& mask == mask

/-- The carry bit is set. -/
def carry (flags : Flags) : Bool := flags.contains carryBit
/-- The parity bit is set. -/
def parity (flags : Flags) : Bool := flags.contains parityBit
/-- The zero bit is set. -/
def zero (flags : Flags) : Bool := flags.contains zeroBit
/-- The sign bit is set. -/
def sign (flags : Flags) : Bool := flags.contains signBit
/-- The overflow bit is set. -/
def overflow (flags : Flags) : Bool := flags.contains overflowBit
/-- The trap bit is set. -/
def trap (flags : Flags) : Bool := flags.contains trapBit
/-- The interrupt-enable bit is set. -/
def interruptEnable (flags : Flags) : Bool := flags.contains interruptEnableBit
/-- The direction bit is set. -/
def direction (flags : Flags) : Bool := flags.contains directionBit

/-- The I/O privilege level, from zero to three. -/
def privilegeLevel (flags : Flags) : Nat := ((flags.bits &&& privilegeBits) >>> 12).toNat

/-- The status bits alone. -/
def status (flags : Flags) : UInt64 := flags.bits &&& statusMask

/-- Everything but the status bits. -/
def nonStatus (flags : Flags) : UInt64 := flags.bits &&& ~~~statusMask

/-- Keeps every bit but the status bits, which come from the source. -/
def withStatusOf (flags source : Flags) : Flags := ⟨flags.nonStatus ||| source.status⟩

/-- Sets or clears the bits of a mask. -/
def assign (flags : Flags) (mask : UInt64) (on : Bool) : Flags :=
  ⟨if on then flags.bits ||| mask else flags.bits &&& ~~~mask⟩

/-- The register in hexadecimal, with at least eight digits behind the marker. -/
def display (flags : Flags) : String :=
  let digits := Numeral.render 16 flags.bits.toNat
  "0x" ++ String.ofList (List.replicate (8 - digits.length) '0' ++ digits)

/-- The register as shown to a developer. -/
def describe (flags : Flags) : String := "Rflags(" ++ toString flags.bits.toNat ++ ")"

end Flags

end CallGate
