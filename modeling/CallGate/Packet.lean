import CallGate.Bytes

/-! Packets open with a four-byte kind, and each kind has one shape. -/

namespace CallGate

/-- What a packet is for. -/
inductive PacketKind where
  /-- A public key, sent once in each direction. -/
  | keyExchange
  /-- A client asks for a region to be run on the enclosed register file. -/
  | execute
  /-- The server answers with the register file the region left behind. -/
  | stateTransfer
  deriving DecidableEq, Repr

namespace PacketKind

/-- The number that opens packets of this kind. -/
def toWire : PacketKind → UInt32
  | keyExchange => 0
  | execute => 1
  | stateTransfer => 2

/-- The name of the kind in messages. -/
def name : PacketKind → String
  | keyExchange => "KeyExchange"
  | execute => "ExecuteTetherRegion"
  | stateTransfer => "CPUStateTransfer"

/-- The four bytes that open packets of this kind. -/
def toBytes (kind : PacketKind) : Bytes := Bytes.ofUInt32 kind.toWire

/-- Packets of this kind carry a sealed register file. -/
def isEnvelope : PacketKind → Bool
  | keyExchange => false
  | execute => true
  | stateTransfer => true

/-- How many bytes the kind takes up. -/
def size : Nat := 4

/-- Every kind takes up its four bytes. -/
@[simp] theorem length_toBytes (kind : PacketKind) : kind.toBytes.length = size := by
  simp [toBytes, Bytes.ofUInt32, size]

end PacketKind

/-- The two layouts a packet can have. -/
inductive PacketShape where
  | keyExchange
  | envelope
  deriving DecidableEq, Repr

/-- The name of the layout in messages. -/
def PacketShape.name : PacketShape → String
  | keyExchange => "KeyExchange"
  | envelope => "SecureEnvelope"

/-- Why bytes are not the packet that was expected. -/
inductive PacketError where
  /-- The packet is not as long as its layout. -/
  | malformed (expected actual : Nat)
  /-- No kind has this number. -/
  | unknownKind (raw : UInt32)
  /-- The kind belongs to the other layout. -/
  | wrongKind (expected : PacketShape) (actual : PacketKind)
  deriving DecidableEq, Repr

/-- What is reported for a packet error. -/
def PacketError.message : PacketError → String
  | malformed expected actual => s!"Malformed packet: expected {expected} bytes, got {actual}"
  | unknownKind raw => s!"Unknown packet type {raw}"
  | wrongKind expected actual =>
    s!"Packet type {actual.name} cannot be decoded as {expected.name}"

namespace PacketKind

/-- The kind with the given number. -/
def ofWire (raw : UInt32) : Except PacketError PacketKind :=
  if raw = 0 then .ok keyExchange
  else if raw = 1 then .ok execute
  else if raw = 2 then .ok stateTransfer
  else .error (.unknownKind raw)

/-- The kind a packet opens with, whatever follows it. -/
def peek (packet : Bytes) : Except PacketError PacketKind :=
  match packet.word32? with
  | none => .error (.malformed size packet.length)
  | some raw => ofWire raw

end PacketKind

end CallGate
