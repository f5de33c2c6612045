import CallGate.Region.Memory

/-! Executable memory made of whole pages that the system maps. -/

namespace CallGate

/-- Rounds up to a multiple of a power of two, wrapping around at the end of the address space. -/
def alignUp (length alignment : UInt64) : UInt64 := (length + alignment - 1) &&& ~~~(alignment - 1)

/-- A system that maps pages, with state `σ`. -/
structure PageSource (σ : Type) where
  /-- What the system says the size of a page is. It is not positive if the system cannot tell. -/
  reportedSize : Int64
  /-- Maps so many bytes that can be read and written, and answers where they begin. -/
  map : (length : UInt64) → σ → Except IoError UInt64 × σ
  /-- Lets so many bytes from an address on be run, and neither be read nor written. -/
  protect : (base length : UInt64) → σ → Except IoError Unit × σ
  /-- Gives up so many bytes from an address on. -/
  unmap : (base length : UInt64) → σ → σ

/-- A mapping of whole pages. -/
structure Mapping where
  /-- Where the pages begin. -/
  base : UInt64
  /-- How many bytes the pages hold. -/
  mapped : UInt64
  /-- How many bytes were asked for. -/
  length : UInt64
  deriving DecidableEq, Repr

namespace PageSource

variable {σ : Type}

/-- The size of a page, a power of two. It is the usual one if the system cannot tell. -/
def pageSize (source : PageSource σ) : UInt64 :=
  if 0 < source.reportedSize then source.reportedSize.toUInt64 else 4096

/-- Maps enough pages for a block. -/
def create (source : PageSource σ) (length : UInt64) (state : σ) :
    Except MemoryError Mapping × σ :=
  if length = 0 then (.error .zeroLength, state)
  else
    let mapped := alignUp length source.pageSize
    match source.map mapped state with
    | (.error cause, state) => (.error (.allocationFailed length.toNat cause), state)
    | (.ok base, state) =>
      if base = 0 then
        let cause := IoError.described .other "mmap returned null"
        (.error (.allocationFailed length.toNat cause), state)
      else (.ok ⟨base, mapped, length⟩, state)

/-- Gives up a mapping. -/
def release (source : PageSource σ) (mapping : Mapping) (state : σ) : σ :=
  source.unmap mapping.base mapping.mapped state

/-- Lets a mapping be run, and gives it up if that fails. -/
def lock (source : PageSource σ) (mapping : Mapping) (state : σ) : Except MemoryError Mapping × σ :=
  match source.protect mapping.base mapping.mapped state with
  | (.error cause, state) =>
    (.error (.protectFailed mapping.length.toNat cause), source.release mapping state)
  | (.ok (), state) => (.ok mapping, state)

/-- The mapping that so many bytes from an address on were given out from. -/
def holder (source : PageSource σ) (address length : Nat) : Mapping :=
  let length := UInt64.ofNat length
  ⟨UInt64.ofNat address, alignUp length source.pageSize, length⟩

/-- Gives out blocks of fresh pages. A locked block can be run and not be read. -/
def memory (source : PageSource σ) : ExecutableMemory σ where
  allocate length state :=
    match source.create (UInt64.ofNat length) state with
    | (.error error, state) => (.error error, state)
    | (.ok mapping, state) =>
      (.ok ⟨mapping.base.toNat, List.replicate mapping.length.toNat 0⟩, state)
  lock block state :=
    match source.lock (source.holder block.address block.bytes.length) state with
    | (.error error, state) => (.error error, state)
    | (.ok _, state) => (.ok ⟨block.address, block.bytes⟩, state)

/-- Pages of a common size in an address space of 47 bits, given out in a row behind the first.

Nothing can be mapped in no pages. The state is how many bytes have been given out. -/
def standard : PageSource Nat where
  reportedSize := 4096
  map length given :=
    let base := 4096 + given
    if length = 0 then (.error .invalidArgument, given)
    else if base + length.toNat ≤ 0x800000000000 then
      (.ok (UInt64.ofNat base), given + length.toNat)
    else (.error .outOfMemory, given)
  protect _ _ given := (.ok (), given)
  unmap _ _ given := given

end PageSource

end CallGate
