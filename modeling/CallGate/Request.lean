import CallGate.Channel
import CallGate.Region.Error
import CallGate.Transport

/-! Why a request is refused. Every refusal ends the connection it came on, and no other. -/

namespace CallGate

/-- Why a request is refused. -/
inductive RequestError where
  | versionMismatch (expected actual : UInt32)
  | malformed (cause : PacketError)
  | authentication
  | invalidToken (token : UInt64) (regions : Nat)
  | unknownKind (raw : UInt32)
  /-- Clients do not send packets of this kind. -/
  | unexpectedKind (kind : PacketKind)
  | handshakeRequired
  | repeatedHandshake
  /-- The answer could not be encrypted. -/
  | encryption
  | transport (cause : TransportError)
  deriving DecidableEq, Repr

namespace RequestError

/-- What is reported for a refusal. -/
def message : RequestError → String
  | versionMismatch expected actual =>
    s!"Protocol version mismatch: expected {expected}, got {actual}"
  | malformed cause => s!"Malformed packet: {cause.message}"
  | authentication => "Authentication failure: possible tampering or wrong key"
  | invalidToken token regions => s!"Invalid token {token}: {regions} regions loaded"
  | unknownKind raw => s!"Unknown packet type {raw}"
  | unexpectedKind kind => s!"Unexpected {kind.name} packet from client"
  | handshakeRequired => "Execute request before key exchange"
  | repeatedHandshake => "Key exchange on a connection that already has a session"
  | encryption => "Failed to seal response"
  | transport cause => s!"Transport error: {cause.message}"

/-- A packet error as a refusal. -/
def ofPacket : PacketError → RequestError
  | .unknownKind raw => unknownKind raw
  | other => malformed other

/-- A failed handshake as a refusal. -/
def ofHandshake : HandshakeError → RequestError
  | .versionMismatch expected actual => versionMismatch expected actual

/-- A channel error as a refusal. -/
def ofChannel : ChannelError → RequestError
  | .malformed cause => ofPacket cause
  | .authentication => authentication
  | .encryption => encryption

/-- A failed invocation as a refusal. -/
def ofInvoke : InvokeError → RequestError
  | .invalidToken token regions => invalidToken token regions

end RequestError

end CallGate
