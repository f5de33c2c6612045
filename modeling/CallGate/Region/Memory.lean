import CallGate.Bytes
import CallGate.Region.Error

/-! Executable memory: blocks are written first and locked before they can be run. -/

namespace CallGate

/-- A block that can be written and not yet run. -/
structure WritableBlock where
  /-- Tells the block from all others its memory gave out. -/
  address : Nat
  /-- The bytes of the block, as many as were asked for. -/
  bytes : Bytes
  deriving DecidableEq, Repr, Inhabited

/-- Replaces the bytes from a place on. -/
def WritableBlock.write (block : WritableBlock) (place : Nat) (data : Bytes) : WritableBlock :=
  { block with
    bytes := block.bytes.take place ++ data ++ block.bytes.drop (place + data.length) }

/-- A block that can be run and no longer be written. -/
structure LockedBlock where
  /-- Where its first instruction is. -/
  address : Nat
  /-- The code in the block. -/
  code : Bytes
  deriving DecidableEq, Repr, Inhabited

/-- A supplier of executable memory with state `μ`. -/
structure ExecutableMemory (μ : Type) where
  /-- A fresh block of so many bytes. -/
  allocate : (length : Nat) → μ → Except MemoryError WritableBlock × μ
  /-- Gives up writing a block for running it. -/
  lock : WritableBlock → μ → Except MemoryError LockedBlock × μ

/-- One thing that memory was asked for. -/
inductive MemoryEvent where
  | allocate (index length : Nat)
  /-- A block was locked with these contents. -/
  | makeExecutable (index : Nat) (contents : Bytes)
  deriving DecidableEq, Repr

/-- Memory that runs nothing, remembers what it was asked for, and can be told to fail. -/
structure RehearsalMemory where
  /-- Every request granted so far, first to last. -/
  events : List MemoryEvent := []
  /-- How many blocks have been given out. -/
  allocated : Nat := 0
  /-- The block that cannot be allocated. -/
  failAllocation : Option Nat := none
  /-- The block that cannot be locked. -/
  failLock : Option Nat := none
  deriving Inhabited

namespace RehearsalMemory

/-- Gives out blocks in order. A block that fails is asked for again under the same number. -/
def allocate (length : Nat) (memory : RehearsalMemory) :
    Except MemoryError WritableBlock × RehearsalMemory :=
  if length = 0 then (.error .zeroLength, memory)
  else if memory.failAllocation = some memory.allocated then
    let cause := IoError.described .outOfMemory "injected allocation failure"
    (.error (.allocationFailed length cause), memory)
  else
    (.ok ⟨memory.allocated, List.replicate length 0⟩,
      { memory with
        allocated := memory.allocated + 1
        events := memory.events ++ [.allocate memory.allocated length] })

/-- Locks a block and remembers its contents. -/
def lock (block : WritableBlock) (memory : RehearsalMemory) :
    Except MemoryError LockedBlock × RehearsalMemory :=
  if memory.failLock = some block.address then
    let cause := IoError.described .permissionDenied "injected protect failure"
    (.error (.protectFailed block.bytes.length cause), memory)
  else
    (.ok ⟨block.address, block.bytes⟩,
      { memory with events := memory.events ++ [.makeExecutable block.address block.bytes] })

/-- The rehearsal as a supplier of memory. -/
def memory : ExecutableMemory RehearsalMemory := ⟨allocate, lock⟩

end RehearsalMemory

end CallGate
