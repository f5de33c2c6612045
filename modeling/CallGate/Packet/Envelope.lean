import CallGate.Crypto.Material
import CallGate.Packet
import CallGate.Register

/-! The envelope: an encrypted register file with its nonce and authentication tag. -/

namespace CallGate

/-- A sealed register file. -/
structure Envelope where
  /-- What the packet is for. -/
  kind : PacketKind
  /-- The nonce of the sealing. -/
  nonce : Nonce
  /-- The register file, encrypted. -/
  ciphertext : FixedBytes RegisterFile.size
  /-- The authentication tag over the kind and the ciphertext. -/
  tag : Tag
  deriving DecidableEq, Repr

namespace Envelope

/-- Envelopes hold a kind, a nonce, a register file and a tag. -/
def size : Nat := PacketKind.size + nonceSize + RegisterFile.size + tagSize

/-- What the tag binds besides the ciphertext: the bytes of the kind. -/
def associatedData (envelope : Envelope) : Bytes := envelope.kind.toBytes

/-- The packet for an envelope, whatever its kind. -/
def encode (envelope : Envelope) : Bytes :=
  envelope.kind.toBytes ++ envelope.nonce.toList ++ envelope.ciphertext.toList ++
    envelope.tag.toList

/-- The envelope a complete packet holds.

Only the shape is judged: the length first, then the kind. -/
def decode (packet : Bytes) : Except PacketError Envelope :=
  if exact : packet.length = size then
    match PacketKind.peek packet with
    | .error error => .error error
    | .ok kind =>
      if kind.isEnvelope then
        have length : packet.length = 180 := exact
        .ok {
          kind
          nonce := FixedBytes.slice packet 4 nonceSize (by rw [length]; decide)
          ciphertext :=
            FixedBytes.slice packet 28 RegisterFile.size (by rw [length]; decide)
          tag := FixedBytes.slice packet 164 tagSize (by rw [length]; decide) }
      else .error (.wrongKind .envelope kind)
  else .error (.malformed size packet.length)

end Envelope

end CallGate
