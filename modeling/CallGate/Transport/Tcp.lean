import CallGate.Connections
import CallGate.Notice
import CallGate.Transport.Frame
import CallGate.Transport.Listener

/-! A transport over sockets, which never waits for a single one of them.

Frames that arrive ahead of a close are reported before it. A connection stays writable until its
close is reported, so a client that stops sending after its last request still gets the answer. -/

namespace CallGate

/-- One accepted connection. -/
structure Connection where
  socket : Socket
  peer : SocketAddress
  /-- Bytes that arrived and belong to no complete frame yet. -/
  inbox : Bytes
  lastActivity : Instant
  /-- The peer sends nothing more, and its close is queued. -/
  readClosed : Bool
  deriving Repr, DecidableEq

/-- The state of the transport over a machine with state `ν`. -/
structure Tcp (ν : Type) where
  network : ν
  connections : Connections Connection := .empty
  /-- Events still to be polled. -/
  events : List Event := []
  /-- The number of the next connection. -/
  nextId : UInt64 := 1
  maxClients : UInt64
  /-- A peer that is silent for this long is dropped. -/
  idleTimeout : Duration
  /-- Nobody is accepted before this instant. -/
  acceptPausedUntil : Option Instant := none
  /-- How often one poll may wake up before it gives up. -/
  patience : Nat
  /-- What has been logged, first to last. -/
  log : List Notice := []

namespace Tcp

variable {ν : Type}

/-- How long nobody is accepted after the listener failed. -/
def acceptBackoff : Duration := ⟨100 * 1000000⟩

/-- The unread bytes after which reading stops until frames are taken out: one largest frame. -/
def inboxLimit : Nat := Frame.maxLength + Frame.headerLength

/-- Opens a listener. Answers its address and the transport, and the machine in either case. -/
def bind (network : Network ν) (address : String) (maxClients : UInt64) (idleTimeout : Duration)
    (patience : Nat) (state : ν) : Except TransportError (SocketAddress × Tcp ν) × ν :=
  match network.openListener address state with
  | (.error cause, state) => (.error (.bind address cause), state)
  | (.ok opened, state) =>
    (.ok (opened, { network := state, maxClients, idleTimeout, patience }), state)

/-- What emptying a socket came to. -/
structure Drained (ν : Type) where
  /-- The bytes held before, and those read. -/
  inbox : Bytes
  /-- The peer sends nothing more. -/
  ended : Bool
  /-- At least one byte was read. -/
  active : Bool
  network : ν

/-- Reads until nothing is left, the peer is done, or more than a largest frame is held. -/
def drain (network : Network ν) (socket : Socket) (inbox : Bytes) (active : Bool) (state : ν) :
    Drained ν :=
  match network.read socket state with
  | (.wouldBlock, state) => ⟨inbox, false, active, state⟩
  | (.ended, state) => ⟨inbox, true, active, state⟩
  | (.failed _, state) => ⟨inbox, true, active, state⟩
  | (.data bytes _ _, state) =>
    if inboxLimit < (inbox ++ bytes).length then ⟨inbox ++ bytes, false, true, state⟩
    else drain network socket (inbox ++ bytes) true state
termination_by inboxLimit + 1 - inbox.length
decreasing_by
  simp only [List.length_append] at *
  omega

/-- What reading a connection came to. -/
structure Harvest (ν : Type) where
  connection : Connection
  /-- The packets of all frames completed. -/
  packets : List Bytes
  /-- The peer is done or broke the framing. -/
  closed : Bool
  notices : List Notice
  network : ν

/-- Empties a socket and takes out every complete frame, even if the peer is done. -/
def harvest (network : Network ν) (id : ConnectionId) (connection : Connection) (now : Instant)
    (state : ν) : Harvest ν :=
  let drained := drain network connection.socket connection.inbox false state
  let split := Frame.split drained.inbox
  { connection := { connection with
      inbox := split.rest
      lastActivity := if drained.active then now else connection.lastActivity }
    packets := split.packets
    closed := drained.ended || split.invalid.isSome
    notices := split.invalid.toList.map (.invalidFrame id)
    network := drained.network }

/-- Closes a connection, if there is one. -/
def close (network : Network ν) (tcp : Tcp ν) (id : ConnectionId) : Tcp ν :=
  match tcp.connections.get? id with
  | none => tcp
  | some connection =>
    { tcp with
      connections := tcp.connections.erase id
      network := network.shutdown connection.socket tcp.network }

/-- Reads one connection and queues what follows from it.

A silent connection is closed at once. One whose peer is done is closed when that is reported. -/
def attend (network : Network ν) (now : Instant) (tcp : Tcp ν) (id : ConnectionId) : Tcp ν :=
  match tcp.connections.get? id with
  | none => tcp
  | some connection =>
    if connection.readClosed then tcp
    else
      let harvest := harvest network id connection now tcp.network
      let received := harvest.packets.map (.received id)
      let kept := { harvest.connection with readClosed := harvest.closed }
      let tcp := { tcp with
        network := harvest.network
        connections := tcp.connections.insert id kept
        events := tcp.events ++ received
        log := tcp.log ++ harvest.notices }
      if harvest.closed then { tcp with events := tcp.events ++ [.disconnected id] }
      else if tcp.idleTimeout.nanoseconds ≤ (now.since kept.lastActivity).nanoseconds then
        let closed := tcp.close network id
        { closed with events := closed.events ++ [.timedOut id] }
      else tcp

/-- What is logged of a peer that is turned away, if it is.

Its socket is looked at only where there is room for one more. -/
def refusal? (tcp : Tcp ν) (arrival : Arrival) : Option Notice :=
  if tcp.maxClients.toNat ≤ tcp.connections.size then
    some (.connectionLimit arrival.peer tcp.maxClients)
  else arrival.fault.map (.unprepared arrival.peer)

/-- Takes in one peer, or turns it away. -/
def takeIn (network : Network ν) (now : Instant) (tcp : Tcp ν) (arrival : Arrival) : Tcp ν :=
  match tcp.refusal? arrival with
  | some notice =>
    { tcp with
      network := network.shutdown arrival.socket tcp.network
      log := tcp.log ++ [notice] }
  | none =>
    let id : ConnectionId := ⟨tcp.nextId⟩
    { tcp with
      nextId := tcp.nextId + 1
      connections := tcp.connections.insert id {
        socket := arrival.socket, peer := arrival.peer, inbox := [], lastActivity := now
        readClosed := false }
      events := tcp.events ++ [.connected id] }

/-- Accepting is not paused. -/
def accepting (tcp : Tcp ν) (now : Instant) : Bool :=
  match tcp.acceptPausedUntil with
  | none => true
  | some reopening => reopening.nanoseconds ≤ now.nanoseconds

/-- Takes in everyone who waits. A failing listener is left alone for a while. -/
def accept (network : Network ν) (now : Instant) (tcp : Tcp ν) : Tcp ν :=
  if tcp.accepting now then
    let (arrivals, state) := network.arrivals tcp.network
    let start := { tcp with network := state, acceptPausedUntil := none }
    let tcp := arrivals.peers.foldl (takeIn network now) start
    match arrivals.failure with
    | none => tcp
    | some cause =>
      { tcp with
        acceptPausedUntil := some (now.after acceptBackoff)
        log := tcp.log ++ [.acceptPaused cause acceptBackoff.milliseconds] }
  else tcp

/-- The time, as the machine tells it. -/
def clock (network : Network ν) (tcp : Tcp ν) : Instant × Tcp ν :=
  let (now, state) := network.now tcp.network
  (now, { tcp with network := state })

/-- Accepts peers, then reads every connection in the order of their numbers. -/
def pump (network : Network ν) (tcp : Tcp ν) : Tcp ν :=
  let (now, tcp) := tcp.clock network
  let tcp := tcp.accept network now
  tcp.connections.keys.foldl (attend network now) tcp

/-- Takes the first event. The connection of a close is released with it. -/
def nextEvent (network : Network ν) (tcp : Tcp ν) : Option Event × Tcp ν :=
  match tcp.events with
  | [] => (none, tcp)
  | .disconnected id :: rest =>
    (some (.disconnected id), { tcp with events := rest }.close network id)
  | event :: rest => (some event, { tcp with events := rest })

/-- The instants at which connections that are still read have been silent for too long.

There is no answer if one of them lies past the range of the clock. -/
def expiries (tcp : Tcp ν) : Option (List Instant) :=
  (tcp.connections.entries.filter fun entry => !entry.2.readClosed).mapM fun entry =>
    entry.2.lastActivity.add? tcp.idleTimeout

/-- The span until a deadline, a silence that is too long, or the end of an accept pause. -/
def waitBudget (tcp : Tcp ν) (now deadline : Instant) : Option Duration :=
  tcp.expiries.map fun expiries =>
    let wake := (expiries ++ tcp.acceptPausedUntil.toList).foldl Instant.earliest deadline
    wake.since now

/-- Waits until a socket that is still read, or the listener, has something, or a span is over. -/
def rest (network : Network ν) (tcp : Tcp ν) (span : Duration) : Tcp ν :=
  let reading := tcp.connections.entries.filter fun entry => !entry.2.readClosed
  { tcp with
    network := network.wait (reading.map (·.2.socket)) tcp.acceptPausedUntil.isNone
      span.waitMilliseconds tcp.network }

/-- An accept pause ends past the range of the clock, which cannot be told. -/
def outlasts (tcp : Tcp ν) : Bool :=
  tcp.acceptPausedUntil.any fun reopening => Instant.limit ≤ reopening.nanoseconds

/-- Polls until there is an event or the deadline has passed, waking up at most so often. -/
def pollUntil (network : Network ν) (deadline : Instant) : (wakeups : Nat) → Tcp ν →
    Except TransportError (Option Event) × Tcp ν
  | 0, tcp => (.ok none, tcp)
  | wakeups + 1, tcp =>
    match tcp.nextEvent network with
    | (some event, tcp) => (.ok (some event), tcp)
    | (none, tcp) =>
      let pumped := tcp.pump network
      if pumped.outlasts then (.error .clockOverflow, pumped)
      else
        match pumped.nextEvent network with
        | (some event, tcp) => (.ok (some event), tcp)
        | (none, tcp) =>
          let (now, tcp) := tcp.clock network
          if deadline.nanoseconds ≤ now.nanoseconds then (.ok none, tcp)
          else
            match tcp.waitBudget now deadline with
            | none => (.error .clockOverflow, tcp)
            | some span => pollUntil network deadline wakeups (tcp.rest network span)

/-- Waits up to a span for the next event. -/
def poll (network : Network ν) (wait : Duration) (tcp : Tcp ν) :
    Except TransportError (Option Event) × Tcp ν :=
  let (now, tcp) := tcp.clock network
  match now.add? wait with
  | none => (.error .clockOverflow, tcp)
  | some deadline => pollUntil network deadline tcp.patience tcp

/-- Sends one packet as a frame. -/
def send (network : Network ν) (id : ConnectionId) (packet : Bytes) (tcp : Tcp ν) :
    Except TransportError Unit × Tcp ν :=
  match Frame.encode packet with
  | .error error => (.error error, tcp)
  | .ok frame =>
    match tcp.connections.get? id with
    | none => (.error (.unknownConnection id), tcp)
    | some connection =>
      match network.write connection.socket frame tcp.network with
      | (.error cause, state) => (.error (.io cause), { tcp with network := state })
      | (.ok (), state) => (.ok (), { tcp with network := state })

/-- Closes a connection and forgets its events, if there is such a connection. -/
def disconnect (network : Network ν) (id : ConnectionId) (tcp : Tcp ν) : Tcp ν :=
  if tcp.connections.contains id then
    let closed := tcp.close network id
    { closed with events := closed.events.filter (·.connection ≠ id) }
  else tcp

/-- Where a connection comes from. -/
def peer? (tcp : Tcp ν) (id : ConnectionId) : Option SocketAddress :=
  (tcp.connections.get? id).map (·.peer)

/-- The sockets as a transport. -/
def transport (network : Network ν) : Transport (Tcp ν) where
  poll := poll network
  send := send network
  disconnect := disconnect network

end Tcp

end CallGate
