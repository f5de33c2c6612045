import CallGate.Numeral

/-! Byte strings, blocks of a fixed size, little-endian numbers and hexadecimal text. -/

namespace CallGate

/-- A byte string of any length. -/
abbrev Bytes := List UInt8

namespace Bytes

/-- The lowest `count` base-256 digits of a number, least significant first. -/
def littleEndian : (count : Nat) → (value : Nat) → Bytes
  | 0, _ => []
  | count + 1, value => UInt8.ofNat value :: littleEndian count (value / 256)

/-- The number whose base-256 digits are these bytes, least significant first. -/
def value : Bytes → Nat
  | [] => 0
  | byte :: rest => byte.toNat + 256 * value rest

/-- A number is written in exactly as many bytes as are asked for. -/
@[simp] theorem length_littleEndian (count value : Nat) :
    (littleEndian count value).length = count := by
  induction count generalizing value with
  | zero => rfl
  | succ count ih => simp [littleEndian, ih]

/-- Two lower-case hexadecimal digits for every byte, high half first. -/
def toHex (bytes : Bytes) : String :=
  String.ofList (bytes.flatMap fun byte =>
    [Numeral.digit (byte.toNat / 16), Numeral.digit (byte.toNat % 16)])

/-- The bytes that pairs of hexadecimal digits spell. -/
def ofHexDigits? : List Char → Option Bytes
  | [] => some []
  | high :: low :: rest => do
    let high ← Numeral.digitValue? 16 high
    let low ← Numeral.digitValue? 16 low
    let rest ← ofHexDigits? rest
    return UInt8.ofNat (16 * high + low) :: rest
  | [_] => none

end Bytes

/-- A byte string of exactly `size` bytes. -/
structure FixedBytes (size : Nat) where
  /-- The bytes, first to last. -/
  toList : Bytes
  /-- There are as many bytes as the type says. -/
  length_toList : toList.length = size
  deriving DecidableEq, Repr

namespace FixedBytes

/-- Two blocks of one size are equal when their bytes are. -/
@[ext] theorem ext {size : Nat} {left right : FixedBytes size}
    (same : left.toList = right.toList) : left = right := by
  cases left
  cases right
  simp_all

/-- The same byte `size` times. -/
def replicate (size : Nat) (byte : UInt8) : FixedBytes size :=
  ⟨List.replicate size byte, List.length_replicate⟩

/-- The block of zeros stands for any other. -/
instance (size : Nat) : Inhabited (FixedBytes size) := ⟨replicate size 0⟩

/-- A byte string as a block, when it has the right size. -/
def ofList? (size : Nat) (bytes : Bytes) : Option (FixedBytes size) :=
  if exact : bytes.length = size then some ⟨bytes, exact⟩ else none

/-- The `size` bytes from position `start`. -/
def slice (bytes : Bytes) (start size : Nat) (within : start + size ≤ bytes.length) :
    FixedBytes size :=
  ⟨(bytes.drop start).take size, by simp; omega⟩

/-- The lowest `size` base-256 digits of a number, least significant first. -/
def littleEndian (size value : Nat) : FixedBytes size :=
  ⟨Bytes.littleEndian size value, Bytes.length_littleEndian size value⟩

/-- The number a block stands for, least significant byte first. -/
def value {size : Nat} (block : FixedBytes size) : Nat := Bytes.value block.toList

/-- A block taken from an array of the same size. -/
def ofVector {size : Nat} (bytes : Vector UInt8 size) : FixedBytes size :=
  ⟨bytes.toList, by simp⟩

/-- Two lower-case hexadecimal digits for every byte. -/
def toHex {size : Nat} (block : FixedBytes size) : String := Bytes.toHex block.toList

end FixedBytes

namespace Bytes

/-- A 32-bit word as four bytes, least significant first. -/
def ofUInt32 (word : UInt32) : Bytes := littleEndian 4 word.toNat

/-- A 64-bit word as eight bytes, least significant first. -/
def ofUInt64 (word : UInt64) : Bytes := littleEndian 8 word.toNat

/-- The 32-bit word at the front of a byte string, when four bytes are there. -/
def word32? (bytes : Bytes) : Option UInt32 :=
  if 4 ≤ bytes.length then some (UInt32.ofNat (value (bytes.take 4))) else none

/-- The 64-bit word whose bytes these are, least significant first. -/
def word64 (bytes : Bytes) : UInt64 := UInt64.ofNat (value bytes)

end Bytes

end CallGate
