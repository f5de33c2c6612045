import CallGate.Transport.Network

/-! A network in memory, with byte streams both ways and a clock that only waiting moves. -/

namespace CallGate

/-- One connection, seen from both ends. -/
structure Wire.Stream where
  /-- Where the client is. -/
  client : SocketAddress
  /-- Bytes the client wrote and the server has not read. -/
  toServer : Bytes := []
  /-- The client writes nothing more. -/
  clientDone : Bool := false
  /-- Bytes the server wrote and the client has not read. -/
  toClient : Bytes := []
  /-- The server closed the connection. -/
  serverClosed : Bool := false

/-- The state of the network. -/
structure Wire where
  /-- The time in nanoseconds. -/
  time : Nat := 0
  /-- All connections ever made. A socket is a place in this list. -/
  streams : List Wire.Stream := []
  /-- Connections that wait to be accepted. -/
  backlog : List Socket := []
  /-- The loopback interface is up, so the machine has addresses and clients can reach it. -/
  online : Bool := true

namespace Wire

/-- Changes one stream. -/
def adjust (wire : Wire) (socket : Socket) (change : Stream → Stream) : Wire :=
  { wire with streams := wire.streams.modify socket change }

/-- Where the next client connects from. -/
def clientAddress (wire : Wire) : SocketAddress :=
  { ip := .v4 ⟨127, 0, 0, 1⟩, port := UInt16.ofNat (40000 + wire.streams.length) }

/-- A client connects, if it can reach the listener. -/
def connect (wire : Wire) : Except IoError (Socket × Wire) :=
  if wire.online then
    let socket := wire.streams.length
    .ok (socket, { wire with
      streams := wire.streams ++ [{ client := wire.clientAddress }]
      backlog := wire.backlog ++ [socket] })
  else .error .networkUnreachable

/-- A client writes. -/
def clientWrite (wire : Wire) (socket : Socket) (bytes : Bytes) : Wire :=
  wire.adjust socket fun stream => { stream with toServer := stream.toServer ++ bytes }

/-- A client stops writing. -/
def clientDone (wire : Wire) (socket : Socket) : Wire :=
  wire.adjust socket fun stream => { stream with clientDone := true }

/-- A client reads exactly so many bytes, if they are there. -/
def clientRead (wire : Wire) (socket : Socket) (count : Nat) : Option Bytes × Wire :=
  match wire.streams[socket]? with
  | none => (none, wire)
  | some stream =>
    if count ≤ stream.toClient.length then
      (some (stream.toClient.take count),
        wire.adjust socket fun stream => { stream with toClient := stream.toClient.drop count })
    else (none, wire)

/-- The server's side of a stream has something to report. -/
def readable (wire : Wire) (socket : Socket) : Bool :=
  match wire.streams[socket]? with
  | none => false
  | some stream => !stream.toServer.isEmpty || stream.clientDone

/-- Addresses of four bytes that a listener can be opened at.

A machine without an interface has no addresses to compare with and takes every one. -/
def listensAt (online : Bool) (address : Ipv4) : Bool :=
  !online || address.first = 127 || (224 ≤ address.first && address.first < 240) ||
    address = ⟨0, 0, 0, 0⟩ || address = ⟨255, 255, 255, 255⟩

/-- Why a listener cannot be opened at an address of eight groups, if it cannot.

The zone counts only for addresses that have no meaning without one. The one interface is 1. -/
def refusalV6 (online : Bool) (address : Ipv6) (scope : UInt32) : Option IoError :=
  match address.mapped?, address.groups with
  | some plain, _ => if listensAt online plain then none else some .addressNotAvailable
  | none, [0, 0, 0, 0, 0, 0, 0, 0] => none
  | none, [0, 0, 0, 0, 0, 0, 0, 1] => if online then none else some .addressNotAvailable
  | none, groups =>
    let first := groups.head?.getD 0
    -- Multicast addresses name no single machine.
    if 0xff00 ≤ first then some .invalidArgument
    else if 0xfe80 ≤ first && first < 0xfec0 then
      if scope = 0 then some .invalidArgument
      else if scope = 1 then some .addressNotAvailable
      else some .noSuchDevice
    else some .addressNotAvailable

/-- Why a listener cannot be opened at an address, if it cannot. -/
def refusal (online : Bool) (address : SocketAddress) : Option IoError :=
  match address.ip with
  | .v4 ip => if listensAt online ip then none else some .addressNotAvailable
  | .v6 ip => refusalV6 online ip address.scope

/-- The labels of a name, with the dots between them left out. -/
def labels (name : List Char) : List (List Char) :=
  ((String.ofList name).splitOn ".").map String.toList

/-- A name that a name server could be asked for. One dot at its end is no part of it. -/
def isName (text : List Char) : Bool :=
  let name := if text.getLast? = some '.' then text.dropLast else text
  let allowed (c : Char) := c.isAlphanum || c = '-' || c = '_'
  text = ['.'] || (text.head? ≠ some '-' && name.length < 254 &&
    (labels name).all fun label => !label.isEmpty && label.length < 64 && label.all allowed)

/-- The addresses of a host. Only the machine itself is known, and no name server can be reached. -/
def lookup (host : List Char) : Except IoError (List (IpAddress × UInt32)) :=
  if host.map Char.toLower = "localhost".toList then .ok [(.v4 ⟨127, 0, 0, 1⟩, 0)]
  else if isName host then .error .noNameServer
  else .error .unknownHost

/-- The server reads what one read can yield. -/
def read (socket : Socket) (wire : Wire) : Reading × Wire :=
  match wire.streams[socket]? with
  | none => (.ended, wire)
  | some stream =>
    let bytes := stream.toServer.take readSize
    if nonempty : 0 < bytes.length then
      (.data bytes nonempty (List.length_take_le readSize stream.toServer),
        wire.adjust socket fun stream => { stream with toServer := stream.toServer.drop readSize })
    else if stream.clientDone then (.ended, wire)
    else (.wouldBlock, wire)

/-- The network as a machine. -/
def network : Network Wire where
  lookup host wire := (lookup host, wire)
  listen address wire :=
    match refusal wire.online address with
    | none => (.ok (), wire)
    | some cause => (.error cause, wire)
  unblock wire := (.ok (), wire)
  now wire := (⟨wire.time⟩, wire)
  arrivals wire :=
    let peers := wire.backlog.filterMap fun socket =>
      wire.streams[socket]?.map fun stream => { socket, peer := stream.client }
    (⟨peers, none⟩, { wire with backlog := [] })
  read := read
  write socket bytes wire :=
    (.ok (), wire.adjust socket fun stream => { stream with toClient := stream.toClient ++ bytes })
  shutdown socket wire := wire.adjust socket fun stream => { stream with serverClosed := true }
  wait sockets listener milliseconds wire :=
    -- Whatever is already there ends the wait before any time passes.
    if sockets.any wire.readable || (listener && !wire.backlog.isEmpty) then wire
    else { wire with time := wire.time + milliseconds * 1000000 }

end Wire

end CallGate
