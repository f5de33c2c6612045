import CallGate.Bytes
import CallGate.Identity
import CallGate.IoError
import CallGate.Time

/-! A transport reports events of its connections and carries whole packets. -/

namespace CallGate

/-- Why a transport cannot do what it was asked to. -/
inductive TransportError where
  | bind (address : String) (cause : IoError)
  | io (cause : IoError)
  | unknownConnection (connection : ConnectionId)
  /-- The packet is empty or longer than a frame may be. -/
  | frameTooLarge (length : Nat)
  /-- A deadline lies past the range of the clock. -/
  | clockOverflow
  deriving DecidableEq, Repr

/-- What is reported for a transport error. -/
def TransportError.message : TransportError → String
  | bind address cause => s!"Failed to listen on {address}: {cause.message}"
  | io cause => s!"I/O error: {cause.message}"
  | unknownConnection connection => s!"Unknown connection {connection.display}"
  | frameTooLarge length => s!"Packet of {length} bytes exceeds the frame limit"
  | clockOverflow => "overflow when adding duration to instant"

/-- What happens on a connection. -/
inductive Event where
  | connected (connection : ConnectionId)
  | received (connection : ConnectionId) (packet : Bytes)
  /-- The peer closed the connection or broke the framing. -/
  | disconnected (connection : ConnectionId)
  /-- The peer stayed silent for too long. -/
  | timedOut (connection : ConnectionId)
  deriving DecidableEq, Repr

namespace Event

/-- The connection an event happens on. -/
def connection : Event → ConnectionId
  | connected connection => connection
  | received connection _ => connection
  | disconnected connection => connection
  | timedOut connection => connection

/-- What happens, in a word. -/
def name : Event → String
  | connected _ => "Connected"
  | received _ _ => "Received"
  | disconnected _ => "Disconnected"
  | timedOut _ => "TimedOut"

/-- The packet that came, if one did. -/
def packet? : Event → Option Bytes
  | received _ packet => some packet
  | _ => none

end Event

/-- A transport with state `τ`. -/
structure Transport (τ : Type) where
  /-- Waits up to a span for the next event. -/
  poll : (wait : Duration) → τ → Except TransportError (Option Event) × τ
  /-- Sends one packet. -/
  send : ConnectionId → Bytes → τ → Except TransportError Unit × τ
  /-- Closes a connection. -/
  disconnect : ConnectionId → τ → τ

namespace Transport

variable {τ : Type}

/-- The same transport, except that a poll fails when there is no event. -/
def failingWhenIdle (transport : Transport τ) (cause : IoError) : Transport τ :=
  { transport with
    poll := fun wait state =>
      match transport.poll wait state with
      | (.ok none, state) => (.error (.io cause), state)
      | other => other }

end Transport

end CallGate
