import CallGate.Crypto.Material
import CallGate.Packet

/-! The key exchange: a protocol version and a public key. -/

namespace CallGate

/-- The protocol version this library speaks. -/
def protocolVersion : UInt32 := 1

/-- A key-exchange packet, after its kind. -/
structure KeyExchange where
  /-- The protocol version of the sender. -/
  version : UInt32
  /-- The public key of the sender. -/
  publicKey : PublicKey
  deriving DecidableEq, Repr

namespace KeyExchange

/-- Key-exchange packets hold a kind, a version and a key. -/
def size : Nat := PacketKind.size + 4 + keySize

/-- The packet for a key exchange. -/
def encode (message : KeyExchange) : Bytes :=
  PacketKind.keyExchange.toBytes ++ Bytes.ofUInt32 message.version ++ message.publicKey.bytes.toList

/-- The key exchange a complete packet holds.

The length is judged first, then the kind. -/
def decode (packet : Bytes) : Except PacketError KeyExchange :=
  if exact : packet.length = size then
    match PacketKind.peek packet with
    | .error error => .error error
    | .ok .keyExchange =>
      .ok {
        version := UInt32.ofNat (Bytes.value ((packet.drop 4).take 4))
        publicKey := ⟨FixedBytes.slice packet 8 keySize (by rw [exact]; decide)⟩ }
    | .ok kind => .error (.wrongKind .keyExchange kind)
  else .error (.malformed size packet.length)

end KeyExchange

end CallGate
