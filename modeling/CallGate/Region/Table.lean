import CallGate.Crypto.Mixing
import CallGate.Files
import CallGate.Notice
import CallGate.Region.Descriptor
import CallGate.Region.Memory

/-! The table of loaded regions, which clients select by position. -/

namespace CallGate

/-- A loaded region. -/
structure Region where
  /-- The token in the descriptor. -/
  token : UInt32
  /-- The length of the code, without the closing return. -/
  payloadLength : Nat
  /-- The SHA-256 digest of the code in hexadecimal. -/
  digest : String
  /-- The code with its closing return, ready to run. -/
  block : LockedBlock
  deriving DecidableEq, Repr, Inhabited

/-- The region as shown to a developer, up to its place in memory. -/
def Region.describe (region : Region) : String :=
  "TetherRegion \x7b token: " ++ toString region.token ++ ", payload_len: " ++
    toString region.payloadLength ++ ", digest: \"" ++ region.digest ++ "\""

/-- The loaded regions in the order of their descriptor. -/
structure RegionTable where
  regions : List Region
  deriving DecidableEq, Repr, Inhabited

/-- The instruction that closes every region. -/
def returnOpcode : UInt8 := 0xC3

namespace RegionTable

variable {μ : Type}

/-- How many regions are loaded. -/
def size (table : RegionTable) : Nat := table.regions.length

/-- Prepares the block of one record: the payload, then a return, then the lock. -/
def prepare (memory : ExecutableMemory μ) (payload : Bytes) (state : μ) :
    Except MemoryError LockedBlock × μ :=
  match memory.allocate (payload.length + 1) state with
  | (.error error, state) => (.error error, state)
  | (.ok block, state) => memory.lock (block.write 0 (payload ++ [returnOpcode])) state

/-- What is logged for a region once it is loaded. -/
def notices (index : Nat) (record : RegionRecord) : List Notice :=
  let digest := (Sha256.hash record.payload).toHex
  let loaded := Notice.regionLoaded index record.token record.payload.length digest
  if record.token.toNat = index then [loaded]
  else [loaded, .tokenDiffers index record.token]

/-- Loads records from a position on. The first failure ends the load. -/
def loadRecords (memory : ExecutableMemory μ) : (index : Nat) → List RegionRecord → μ →
    Except RegionError (List Region) × μ × List Notice
  | _, [], state => (.ok [], state, [])
  | index, record :: rest, state =>
    match prepare memory record.payload state with
    | (.error error, state) => (.error (.memory index error), state, [])
    | (.ok block, state) =>
      let region : Region := {
        token := record.token
        payloadLength := record.payload.length
        digest := (Sha256.hash record.payload).toHex
        block }
      let (outcome, state, later) := loadRecords memory (index + 1) rest state
      (outcome.map (region :: ·), state, notices index record ++ later)

/-- Loads every region of a descriptor, which is parsed as a whole first. -/
def load (memory : ExecutableMemory μ) (descriptor : Bytes) (state : μ) :
    Except RegionError RegionTable × μ × List Notice :=
  match Descriptor.parse descriptor with
  | .error error => (.error (.descriptor error), state, [])
  | .ok records =>
    let (outcome, state, notices) := loadRecords memory 0 records state
    (outcome.map RegionTable.mk, state, notices)

/-- Loads every region of a descriptor file. -/
def loadFile (memory : ExecutableMemory μ) (read : ReadFile) (path : String) (state : μ) :
    Except RegionError RegionTable × μ × List Notice :=
  match read path with
  | .error cause => (.error (.unreadable path cause), state, [])
  | .ok bytes => load memory bytes state

/-- The region at the position a token names. -/
def lookup (table : RegionTable) (token : UInt64) : Except InvokeError Region :=
  match table.regions[token.toNat]? with
  | some region => .ok region
  | none => .error (.invalidToken token table.size)

end RegionTable

end CallGate
