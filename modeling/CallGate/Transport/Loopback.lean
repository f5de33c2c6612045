import CallGate.Connections
import CallGate.Transport

/-! A transport in memory: events are queued by hand and sent packets are kept for reading. -/

namespace CallGate

/-- The state of a loopback. -/
structure Loopback where
  /-- Events still to be polled. -/
  inbound : List Event := []
  /-- Packets sent on each connection and not taken yet. -/
  sent : Connections (List Bytes) := .empty
  /-- Connections packets can be sent on. -/
  opened : List ConnectionId := []
  /-- Connections the server closed while they were open. -/
  dropped : List ConnectionId := []
  /-- Connections on which every sending fails. -/
  failing : List ConnectionId := []
  deriving Inhabited

namespace Loopback

/-- Packets can be sent on the connection. -/
def isOpen (loopback : Loopback) (id : ConnectionId) : Bool := loopback.opened.contains id

/-- The server closed the connection at some time. -/
def wasDropped (loopback : Loopback) (id : ConnectionId) : Bool := loopback.dropped.contains id

/-- How many events are queued. -/
def pending (loopback : Loopback) : Nat := loopback.inbound.length

/-- Adds an event at the end of the queue. -/
def queue (loopback : Loopback) (event : Event) : Loopback :=
  { loopback with inbound := loopback.inbound ++ [event] }

/-- Marks a connection as closed. -/
def close (loopback : Loopback) (id : ConnectionId) : Loopback :=
  { loopback with opened := loopback.opened.filter (· ≠ id) }

/-- A client connects. -/
def connect (loopback : Loopback) (id : ConnectionId) : Loopback :=
  let opened := if loopback.isOpen id then loopback.opened else loopback.opened ++ [id]
  { loopback with opened }.queue (.connected id)

/-- A packet arrives. -/
def deliver (loopback : Loopback) (id : ConnectionId) (packet : Bytes) : Loopback :=
  loopback.queue (.received id packet)

/-- The client hangs up. -/
def hangUp (loopback : Loopback) (id : ConnectionId) : Loopback :=
  (loopback.close id).queue (.disconnected id)

/-- The client has been silent for too long. -/
def timeOut (loopback : Loopback) (id : ConnectionId) : Loopback :=
  (loopback.close id).queue (.timedOut id)

/-- From now on, every sending on the connection fails. -/
def failSends (loopback : Loopback) (id : ConnectionId) : Loopback :=
  { loopback with failing := loopback.failing ++ [id] }

/-- The packets sent on a connection since they were last taken. -/
def takeSent (loopback : Loopback) (id : ConnectionId) : List Bytes × Loopback :=
  ((loopback.sent.get? id).getD [], { loopback with sent := loopback.sent.erase id })

/-- The first event in the queue, without waiting. -/
def poll (loopback : Loopback) : Option Event × Loopback :=
  match loopback.inbound with
  | [] => (none, loopback)
  | event :: rest => (some event, { loopback with inbound := rest })

/-- Keeps a packet for the client, if the connection is open and no failure was asked for. -/
def send (loopback : Loopback) (id : ConnectionId) (packet : Bytes) :
    Except TransportError Unit × Loopback :=
  if ¬ loopback.isOpen id then (.error (.unknownConnection id), loopback)
  else if loopback.failing.contains id then
    (.error (.io (.described .brokenPipe "injected send failure")), loopback)
  else
    let packets := (loopback.sent.get? id).getD [] ++ [packet]
    (.ok (), { loopback with sent := loopback.sent.insert id packets })

/-- The event stays in the queue when its connection is closed by the server. -/
def survives (id : ConnectionId) : Event → Bool
  | .connected _ => true
  | event => event.connection ≠ id

/-- The server closes a connection and hears nothing more of it but that it connected. -/
def disconnect (loopback : Loopback) (id : ConnectionId) : Loopback :=
  let dropped := if loopback.isOpen id then loopback.dropped ++ [id] else loopback.dropped
  { loopback with
    opened := loopback.opened.filter (· ≠ id)
    dropped
    inbound := loopback.inbound.filter (survives id) }

/-- The loopback as a transport. -/
def transport : Transport Loopback where
  poll _ loopback :=
    let (event, loopback) := loopback.poll
    (.ok event, loopback)
  send id packet loopback := loopback.send id packet
  disconnect id loopback := loopback.disconnect id

end Loopback

end CallGate
