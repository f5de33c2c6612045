import CallGate.Connections
import CallGate.Notice
import CallGate.Region.Invoker

/-! The dispatcher handles one transport event after the other.

A packet that is refused ends the connection it came on. No other connection notices. -/

namespace CallGate

/-- How far a connection has come. -/
inductive Phase where
  /-- The server's key was sent, and the client's has not come yet. -/
  | awaiting
  | established (session : Session)
  deriving DecidableEq, Repr

/-- Everything a server is given, which no event changes. -/
structure Dispatcher (τ σ ξ φ : Type) where
  transport : Transport τ
  crypto : Primitives σ
  invoker : Invoker ξ φ
  keys : KeyPair
  table : RegionTable
  /-- The longest wait for one event. -/
  pollInterval : Duration

namespace Dispatcher

variable {τ σ ξ φ : Type}

/-- What a server holds between two events. -/
structure State (τ σ ξ φ : Type) where
  transport : τ
  crypto : σ
  invoker : Invoker.State ξ φ
  connections : Connections Phase := .empty
  /-- What has been logged, first to last. -/
  log : List Notice := []

namespace State

/-- Adds an entry to the log. -/
def note (state : State τ σ ξ φ) (notice : Notice) : State τ σ ξ φ :=
  { state with log := state.log ++ [notice] }

/-- Forgets a connection, if it is known, and logs why. -/
def forget (state : State τ σ ξ φ) (id : ConnectionId) (notice : Notice) : State τ σ ξ φ :=
  if state.connections.contains id then
    { state with connections := state.connections.erase id }.note notice
  else state

/-- The connection has a session. -/
def hasSession (state : State τ σ ξ φ) (id : ConnectionId) : Bool :=
  match state.connections.get? id with
  | some (.established _) => true
  | _ => false

end State

/-- Greets a new client with the server's key. A client that cannot be greeted is turned away. -/
def welcome (server : Dispatcher τ σ ξ φ) (id : ConnectionId) (state : State τ σ ξ φ) :
    State τ σ ξ φ :=
  match server.transport.send id (Handshake.hello server.keys).encode state.transport with
  | (.error cause, transport) =>
    { state with transport := server.transport.disconnect id transport }.note
      (.helloFailed id cause)
  | (.ok (), transport) =>
    { state with transport, connections := state.connections.insert id .awaiting }.note
      (.clientConnected id)

/-- Establishes a session from a client's key.

Where the connection stands is judged before the packet is. -/
def establish (server : Dispatcher τ σ ξ φ) (id : ConnectionId) (packet : Bytes)
    (state : State τ σ ξ φ) : Except RequestError Unit × State τ σ ξ φ :=
  match state.connections.get? id with
  | none => (.error .handshakeRequired, state)
  | some (.established _) => (.error .repeatedHandshake, state)
  | some .awaiting =>
    match KeyExchange.decode packet with
    | .error error => (.error (.ofPacket error), state)
    | .ok message =>
      match Handshake.complete server.crypto server.keys message state.crypto with
      | (.error error, crypto) => (.error (.ofHandshake error), { state with crypto })
      | (.ok session, crypto) =>
        let connections := state.connections.insert id (.established session)
        (.ok (), { state with crypto, connections }.note (.sessionEstablished id))

/-- The sealed answer to a request: opened, run, and sealed again. -/
def answer (server : Dispatcher τ σ ξ φ) (session : Session) (packet : Bytes) (crypto : σ)
    (invoker : Invoker.State ξ φ) : Except RequestError Envelope × σ × Invoker.State ξ φ :=
  match Channel.unwrap server.crypto session packet crypto with
  | (.error error, crypto) => (.error (.ofChannel error), crypto, invoker)
  | (.ok (_, file), crypto) =>
    match server.invoker.invoke server.table file invoker with
    | (.error error, invoker) => (.error (.ofInvoke error), crypto, invoker)
    | (.ok after, invoker) =>
      match Channel.wrap server.crypto session .stateTransfer after crypto with
      | (.error error, crypto) => (.error (.ofChannel error), crypto, invoker)
      | (.ok envelope, crypto) => (.ok envelope, crypto, invoker)

/-- Runs the region a client asks for and sends back what it left behind. -/
def execute (server : Dispatcher τ σ ξ φ) (id : ConnectionId) (packet : Bytes)
    (state : State τ σ ξ φ) : Except RequestError Unit × State τ σ ξ φ :=
  match state.connections.get? id with
  | some (.established session) =>
    match server.answer session packet state.crypto state.invoker with
    | (.error error, crypto, invoker) => (.error error, { state with crypto, invoker })
    | (.ok envelope, crypto, invoker) =>
      match server.transport.send id envelope.encode state.transport with
      | (.error cause, transport) =>
        (.error (.transport cause), { state with transport, crypto, invoker })
      | (.ok (), transport) => (.ok (), { state with transport, crypto, invoker })
  | _ => (.error .handshakeRequired, state)

/-- Does what a packet asks for, by its kind. -/
def receive (server : Dispatcher τ σ ξ φ) (id : ConnectionId) (packet : Bytes)
    (state : State τ σ ξ φ) : Except RequestError Unit × State τ σ ξ φ :=
  match PacketKind.peek packet with
  | .error error => (.error (.ofPacket error), state)
  | .ok .keyExchange => server.establish id packet state
  | .ok .execute => server.execute id packet state
  | .ok .stateTransfer => (.error (.unexpectedKind .stateTransfer), state)

/-- What is logged when a connection is dropped. -/
def dropNotice (id : ConnectionId) : RequestError → Notice
  | .authentication => .tampering id
  | cause => .dropped id cause

/-- Drops a connection. The client is not told why. -/
def reject (server : Dispatcher τ σ ξ φ) (id : ConnectionId) (cause : RequestError)
    (state : State τ σ ξ φ) : State τ σ ξ φ :=
  { state with
    connections := state.connections.erase id
    transport := server.transport.disconnect id state.transport }.note (dropNotice id cause)

/-- Handles one event to its end. -/
def handle (server : Dispatcher τ σ ξ φ) (event : Event) (state : State τ σ ξ φ) :
    State τ σ ξ φ :=
  match event with
  | .connected id => server.welcome id state
  | .received id packet =>
    match server.receive id packet state with
    | (.ok (), state) => state
    | (.error cause, state) => server.reject id cause state
  | .disconnected id => state.forget id (.clientDisconnected id)
  | .timedOut id => state.forget id (.clientTimedOut id)

/-- Polls once and handles the event that comes, if one does. Tells whether one did. -/
def step (server : Dispatcher τ σ ξ φ) (state : State τ σ ξ φ) :
    Except TransportError Bool × State τ σ ξ φ :=
  match server.transport.poll server.pollInterval state.transport with
  | (.error error, transport) => (.error error, { state with transport })
  | (.ok none, transport) => (.ok false, { state with transport })
  | (.ok (some event), transport) => (.ok true, server.handle event { state with transport })

/-- Handles events until none comes, and counts them.

There is no answer if events keep coming for more than `budget` polls. -/
def runUntilIdle (server : Dispatcher τ σ ξ φ) (budget : Nat) (state : State τ σ ξ φ) :
    Option (Except TransportError Nat) × State τ σ ξ φ :=
  match budget with
  | 0 => (none, state)
  | budget + 1 =>
    match server.step state with
    | (.error error, state) => (some (.error error), state)
    | (.ok false, state) => (some (.ok 0), state)
    | (.ok true, state) =>
      let (outcome, state) := server.runUntilIdle budget state
      (outcome.map (·.map (· + 1)), state)

/-- Polls up to `budget` times, whether events come or not, until the transport fails. -/
def steps (server : Dispatcher τ σ ξ φ) (budget : Nat) (state : State τ σ ξ φ) :
    Option TransportError × State τ σ ξ φ :=
  match budget with
  | 0 => (none, state)
  | budget + 1 =>
    match server.step state with
    | (.error error, state) => (some error, state)
    | (.ok _, state) => server.steps budget state

/-- Serves for up to `budget` polls. Only a failing transport ends the service sooner. -/
def serve (server : Dispatcher τ σ ξ φ) (budget : Nat) (state : State τ σ ξ φ) :
    Option TransportError × State τ σ ξ φ :=
  server.steps budget (state.note (.serving server.table.size))

end Dispatcher

end CallGate
