import CallGate.KeyPair
import CallGate.Packet.KeyExchange

/-! The handshake: both sides exchange public keys and derive one session key. -/

namespace CallGate

/-- An established session, owned by one connection. -/
structure Session where
  /-- The key both ends share. -/
  key : SessionKey
  deriving DecidableEq, Repr, Inhabited

/-- Why a handshake cannot be completed. -/
inductive HandshakeError where
  /-- The peer speaks another version of the protocol. -/
  | versionMismatch (expected actual : UInt32)
  deriving DecidableEq, Repr

/-- What is reported when a handshake fails. -/
def HandshakeError.message : HandshakeError → String
  | versionMismatch expected actual =>
    s!"Protocol version mismatch: expected {expected}, got {actual}"

namespace Handshake

variable {σ : Type}

/-- The message either side opens with: the version and its own public key. -/
def hello (keys : KeyPair) : KeyExchange := ⟨protocolVersion, keys.publicKey⟩

/-- The digest of the shared secret, the server's key and the client's key, in this order. -/
def sessionKey (crypto : Primitives σ) (shared : FixedBytes keySize) (server client : PublicKey)
    (state : σ) : SessionKey × σ :=
  let (digest, state) :=
    crypto.digest (shared.toList ++ server.bytes.toList ++ client.bytes.toList) state
  (⟨digest⟩, state)

/-- Refuses a message of another protocol version. -/
def checkVersion (message : KeyExchange) : Except HandshakeError Unit :=
  if message.version = protocolVersion then .ok ()
  else .error (.versionMismatch protocolVersion message.version)

/-- The server's half: the session that follows from a client's message.

Nothing is computed for another version. -/
def complete (crypto : Primitives σ) (server : KeyPair) (message : KeyExchange) (state : σ) :
    Except HandshakeError Session × σ :=
  match checkVersion message with
  | .error error => (.error error, state)
  | .ok () =>
    let (shared, state) := crypto.agree server.secretKey message.publicKey state
    let (key, state) := sessionKey crypto shared server.publicKey message.publicKey state
    (.ok ⟨key⟩, state)

/-- The client's half: the session that follows from the server's message. -/
def join (crypto : Primitives σ) (client : KeyPair) (message : KeyExchange) (state : σ) :
    Except HandshakeError Session × σ :=
  match checkVersion message with
  | .error error => (.error error, state)
  | .ok () =>
    let (shared, state) := crypto.agree client.secretKey message.publicKey state
    let (key, state) := sessionKey crypto shared message.publicKey client.publicKey state
    (.ok ⟨key⟩, state)

end Handshake

end CallGate
