import CallGate.Address
import CallGate.Bytes
import CallGate.IoError
import CallGate.Time

/-! What a stream transport needs from its machine: a listener, sockets and a clock. -/

namespace CallGate

/-- The most bytes one read can yield. -/
def readSize : Nat := 1024

/-- What one read from a socket yields, without waiting. -/
inductive Reading where
  /-- At least one byte, and no more than one read can yield. -/
  | data (bytes : Bytes) (nonempty : 0 < bytes.length) (fits : bytes.length ≤ readSize)
  /-- Nothing has arrived. -/
  | wouldBlock
  /-- The peer sends nothing more. -/
  | ended
  | failed (cause : IoError)

/-- Tells sockets of one machine apart. -/
abbrev Socket := Nat

/-- A peer that waited at a listener, and the socket it was given. -/
structure Arrival where
  socket : Socket
  peer : SocketAddress
  /-- Why the socket cannot be prepared for a transport that never waits, if it cannot. -/
  fault : Option IoError := none

/-- Everyone who waited at a listener. -/
structure Arrivals where
  /-- First come first. A peer that left before it was its turn is none of them. -/
  peers : List Arrival
  /-- The failure that ended the accepting, if one did. -/
  failure : Option IoError

/-- A machine with state `ν`. Nothing is assumed about what it answers. -/
structure Network (ν : Type) where
  /-- Looks up the addresses of a host, and their zones. -/
  lookup : (host : List Char) → ν → Except IoError (List (IpAddress × UInt32)) × ν
  /-- Opens the listener. -/
  listen : SocketAddress → ν → Except IoError Unit × ν
  /-- Makes the listener answer at once when nobody waits there. -/
  unblock : ν → Except IoError Unit × ν
  now : ν → Instant × ν
  /-- Takes everyone who waits at the listener. -/
  arrivals : ν → Arrivals × ν
  read : Socket → ν → Reading × ν
  write : Socket → Bytes → ν → Except IoError Unit × ν
  /-- Closes a socket in both directions and gives it up. -/
  shutdown : Socket → ν → ν
  /-- Waits for one of the sockets, or for the listener if asked to, so many milliseconds long. -/
  wait : (sockets : List Socket) → (listener : Bool) → (milliseconds : Nat) → ν → ν

end CallGate
