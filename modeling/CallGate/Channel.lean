import CallGate.Handshake
import CallGate.Packet.Envelope

/-! The secure channel: register files travel encrypted and bound to what they are for. -/

namespace CallGate

/-- Why an envelope cannot be made or opened. -/
inductive ChannelError where
  /-- The packet is no envelope. -/
  | malformed (cause : PacketError)
  /-- The envelope was altered or belongs to another session. -/
  | authentication
  /-- The register file could not be encrypted. -/
  | encryption
  deriving DecidableEq, Repr

namespace ChannelError

/-- What is reported for a channel error. -/
def message : ChannelError → String
  | malformed cause => s!"Malformed envelope: {cause.message}"
  | authentication => "Authentication failure: possible tampering or wrong session key"
  | encryption => "Failed to seal envelope"

/-- A refusal of the primitives, as seen from the channel. -/
def ofCrypto : CryptoError → ChannelError
  | .authentication => authentication
  | .encryption => encryption

end ChannelError

namespace Channel

variable {σ : Type}

/-- Encrypts a register file under a fresh random nonce. -/
def wrap (crypto : Primitives σ) (session : Session) (kind : PacketKind) (file : RegisterFile)
    (state : σ) : Except ChannelError Envelope × σ :=
  let (nonce, state) := crypto.random nonceSize state
  match crypto.encrypt session.key nonce kind.toBytes file.toBytes state with
  | (.error error, state) => (.error (.ofCrypto error), state)
  | (.ok (ciphertext, tag), state) => (.ok { kind, nonce, ciphertext, tag }, state)

/-- Decrypts an envelope whose tag is right. -/
def unwrapEnvelope (crypto : Primitives σ) (session : Session) (envelope : Envelope) (state : σ) :
    Except ChannelError RegisterFile × σ :=
  match crypto.decrypt session.key envelope.nonce envelope.associatedData envelope.ciphertext
      envelope.tag state with
  | (.error error, state) => (.error (.ofCrypto error), state)
  | (.ok text, state) => (.ok (.ofBytes text), state)

/-- Decodes and decrypts a complete packet.

The shape is judged first, so a malformed packet reaches no primitive. -/
def unwrap (crypto : Primitives σ) (session : Session) (packet : Bytes) (state : σ) :
    Except ChannelError (PacketKind × RegisterFile) × σ :=
  match Envelope.decode packet with
  | .error error => (.error (.malformed error), state)
  | .ok envelope =>
    match unwrapEnvelope crypto session envelope state with
    | (.error error, state) => (.error error, state)
    | (.ok file, state) => (.ok (envelope.kind, file), state)

end Channel

end CallGate
