import CallGate.Address
import CallGate.Request

/-! What a server writes to its log. -/

namespace CallGate

/-- How serious a log entry is. -/
inductive Level where
  | error
  | warn
  | info
  deriving DecidableEq, Repr

/-- The name of a level. -/
def Level.name : Level → String
  | error => "ERROR"
  | warn => "WARN"
  | info => "INFO"

/-- Everything worth a log entry. -/
inductive Notice where
  | keysLoaded (path : String)
  | regionLoaded (index : Nat) (token : UInt32) (length : Nat) (digest : String)
  /-- The token in the descriptor is not the place clients select the region by. -/
  | tokenDiffers (index : Nat) (token : UInt32)
  | descriptorLoaded (path : String) (regions : Nat)
  | listening (address : String) (maxClients : UInt64)
  | serving (regions : Nat)
  | clientConnected (connection : ConnectionId)
  | sessionEstablished (connection : ConnectionId)
  | clientDisconnected (connection : ConnectionId)
  | clientTimedOut (connection : ConnectionId)
  | helloFailed (connection : ConnectionId) (cause : TransportError)
  /-- A packet on this connection failed authentication. -/
  | tampering (connection : ConnectionId)
  | dropped (connection : ConnectionId) (cause : RequestError)
  | connectionLimit (peer : SocketAddress) (maxClients : UInt64)
  /-- The socket of a peer cannot be prepared. -/
  | unprepared (peer : SocketAddress) (cause : IoError)
  | invalidFrame (connection : ConnectionId) (length : Nat)
  | acceptPaused (cause : IoError) (milliseconds : Nat)
  deriving DecidableEq, Repr

namespace Notice

/-- How serious a notice is. -/
def level : Notice → Level
  | helloFailed _ _ | tampering _ => .error
  | tokenDiffers _ _ | dropped _ _ | connectionLimit _ _ | unprepared _ _ | invalidFrame _ _
  | acceptPaused _ _ => .warn
  | keysLoaded _ | regionLoaded _ _ _ _ | descriptorLoaded _ _ | listening _ _ | serving _
  | clientConnected _ | sessionEstablished _ | clientDisconnected _ | clientTimedOut _ => .info

/-- The sentence of a notice. -/
def message : Notice → String
  | keysLoaded _ => "Loaded server key pair"
  | regionLoaded _ _ _ _ => "Loaded tether region"
  | tokenDiffers _ _ =>
    "Descriptor token differs from its position; clients select regions by position"
  | descriptorLoaded _ _ => "Loaded region descriptor"
  | listening _ _ => "Listening"
  | serving _ => "Serving tether regions"
  | clientConnected _ => "Client connected"
  | sessionEstablished _ => "Session established"
  | clientDisconnected _ => "Client disconnected"
  | clientTimedOut _ => "Client timed out"
  | helloFailed _ _ => "Failed to send public key, disconnecting client"
  | tampering _ => "Bad MAC on packet, possible tampering or wrong key; dropping connection"
  | dropped _ _ => "Dropping connection"
  | connectionLimit _ _ => "Connection limit reached, refusing client"
  | unprepared _ _ => "Failed to configure client socket"
  | invalidFrame _ _ => "Invalid frame length, closing connection"
  | acceptPaused _ _ => "Accept failed, pausing new connections"

/-- The named values that go with the sentence. -/
def fields : Notice → List (String × String)
  | keysLoaded path => [("path", path)]
  | regionLoaded index token length digest =>
    [("index", toString index), ("token", toString token), ("len", toString length),
      ("sha256", digest)]
  | tokenDiffers index token => [("index", toString index), ("token", toString token)]
  | descriptorLoaded path regions => [("path", path), ("regions", toString regions)]
  | listening address maxClients => [("addr", address), ("max_clients", toString maxClients)]
  | serving regions => [("regions", toString regions)]
  | clientConnected connection => [("conn", connection.display)]
  | sessionEstablished connection => [("conn", connection.display)]
  | clientDisconnected connection => [("conn", connection.display)]
  | clientTimedOut connection => [("conn", connection.display)]
  | helloFailed connection cause => [("conn", connection.display), ("error", cause.message)]
  | tampering connection => [("conn", connection.display)]
  | dropped connection cause => [("conn", connection.display), ("error", cause.message)]
  | connectionLimit peer maxClients =>
    [("peer", peer.display), ("max_clients", toString maxClients)]
  | unprepared peer cause => [("peer", peer.display), ("error", cause.message)]
  | invalidFrame connection length => [("conn", connection.display), ("len", toString length)]
  | acceptPaused cause milliseconds =>
    [("error", cause.message), ("backoff_ms", toString milliseconds)]

end Notice

end CallGate
