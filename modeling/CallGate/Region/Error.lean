import CallGate.IoError

/-! What can go wrong while regions are loaded and run. -/

namespace CallGate

/-- Why bytes are no region descriptor. -/
inductive DescriptorError where
  /-- A number or a payload reaches past the end. -/
  | truncated (offset needed available : Nat)
  /-- Bytes are left after the last record. -/
  | trailing (count : Nat)
  deriving DecidableEq, Repr

/-- What is reported for a descriptor. -/
def DescriptorError.message : DescriptorError → String
  | truncated offset needed available =>
    s!"Region descriptor truncated at offset {offset}: need {needed} bytes, {available} left"
  | trailing count => s!"Region descriptor has {count} trailing bytes after the last record"

/-- Why executable memory cannot be prepared. -/
inductive MemoryError where
  /-- Blocks hold at least one byte. -/
  | zeroLength
  | allocationFailed (length : Nat) (cause : IoError)
  | protectFailed (length : Nat) (cause : IoError)
  deriving DecidableEq, Repr

/-- What is reported for executable memory. -/
def MemoryError.message : MemoryError → String
  | zeroLength => "Zero-length allocation"
  | allocationFailed length cause =>
    s!"Failed to allocate {length} writable bytes: {cause.message}"
  | protectFailed length cause => s!"Failed to make {length} bytes executable: {cause.message}"

/-- Why a region table cannot be loaded. -/
inductive RegionError where
  | unreadable (path : String) (cause : IoError)
  | descriptor (cause : DescriptorError)
  /-- No executable block could be prepared for the record at this place. -/
  | memory (index : Nat) (cause : MemoryError)
  deriving DecidableEq, Repr

/-- What is reported when a region table cannot be loaded. -/
def RegionError.message : RegionError → String
  | unreadable path cause => s!"Failed to read region descriptor {path}: {cause.message}"
  | descriptor cause => cause.message
  | memory index cause => s!"Failed to prepare region {index}: {cause.message}"

/-- Why a region is not run. -/
inductive InvokeError where
  /-- No region stands at the place the token names. -/
  | invalidToken (token : UInt64) (regions : Nat)
  deriving DecidableEq, Repr

/-- What is reported when a region is not run. -/
def InvokeError.message : InvokeError → String
  | invalidToken token regions => s!"Invalid token {token}: {regions} regions loaded"

end CallGate
