import CallGate.Address
import CallGate.IoError

/-! Hosts and ports a listener is told to open. A host is an address in any of its spellings, or a
name that is left for the machine to look up. -/

namespace CallGate

/-- The address whose four bytes make up a number, the first byte most significant. -/
def Ipv4.ofNat (number : Nat) : Ipv4 where
  first := UInt8.ofNat (number / Nat.pow 256 3)
  second := UInt8.ofNat (number / Nat.pow 256 2)
  third := UInt8.ofNat (number / 256)
  fourth := UInt8.ofNat number

namespace Address

/-- A number of any size: hexadecimal behind `0x`, octal behind a zero, decimal otherwise. -/
def basedNumber? : List Char → Option Nat
  | '0' :: 'x' :: digits => Numeral.ofText? 16 digits
  | '0' :: 'X' :: digits => Numeral.ofText? 16 digits
  | ['0'] => some 0
  | '0' :: digits => Numeral.ofText? 8 digits
  | digits => Numeral.ofText? 10 digits

/-- The number that parts with dots between them stand for, when it fits in `room` bytes.

Every part is one byte, but the last one fills all bytes that are left. -/
def dotted? : (room : Nat) → List Char → Option Nat
  | 0, _ => none
  | room + 1, text =>
    match text.dropWhile (· ≠ '.') with
    | [] => (basedNumber? text).filter (· < Nat.pow 256 (room + 1))
    | _ :: rest => do
      let part ← (basedNumber? (text.takeWhile (· ≠ '.'))).filter (· < 256)
      let others ← dotted? room rest
      return part * Nat.pow 256 room + others

/-- The address is one that several links or machines may have, so that a zone has to tell them
apart. -/
def needsZone (address : Ipv6) : Bool :=
  let first := address.groups.head?.getD 0
  first &&& 0xffc0 = 0xfe80 || first &&& 0xff0f = 0xff01 || first &&& 0xff0f = 0xff02

/-- A zone by its number, or by the name of the one interface where zones matter. -/
def zone? (address : Ipv6) (text : List Char) : Option UInt32 :=
  if needsZone address ∧ text = "lo".toList then some 1
  else ((Numeral.ofText? 10 text).filter (· < UInt32.size)).map UInt32.ofNat

/-- The address that a host spells, and its zone.

Four bytes may be written in fewer parts and in other radices than their canonical text. -/
def ofHost? (text : List Char) : Option (IpAddress × UInt32) :=
  match dotted? 4 text with
  | some number => some (.v4 (.ofNat number), 0)
  | none =>
    match ipv6 text with
    | some (address, []) => some (.v6 address, 0)
    | some (address, '%' :: zone) => (zone? address zone).map fun zone => (.v6 address, zone)
    | _ => none

/-- Everything before the last colon of a text, and everything behind it. -/
def splitAtLastColon (text : List Char) : Option (List Char × List Char) :=
  let behind := (text.reverse.takeWhile (· ≠ ':')).reverse
  if behind.length < text.length then
    some (text.take (text.length - behind.length - 1), behind)
  else none

/-- A port that is the whole text, with or without a plus sign. -/
def portOfText? (text : List Char) : Option UInt16 :=
  ((Numeral.unsigned? text).filter (· < 65536)).map UInt16.ofNat

/-- What a listener is told to open. -/
inductive Endpoint where
  | address (address : SocketAddress)
  /-- A host that spells no address, to be looked up. -/
  | name (host : List Char) (port : UInt16)
  deriving DecidableEq, Repr

/-- A host with a port. No name holds a zero character, and nobody is asked for one that does. -/
def hosted (host : List Char) (port : UInt16) : Except IoError Endpoint :=
  if host.contains '\x00' then .error .zeroInName
  else
    match ofHost? host with
    | some (ip, scope) => .ok (.address { ip, port, scope })
    | none => .ok (.name host port)

/-- What a listener is told to open, read from a text. The port is looked at before the host. -/
def endpoint (text : String) : Except IoError Endpoint :=
  match ofSocketText? text.toList with
  | some address => .ok (.address address)
  | none =>
    match splitAtLastColon text.toList with
    | none => .error .invalidAddress
    | some (host, port) =>
      match portOfText? port with
      | none => .error .invalidPort
      | some port => hosted host port

end Address

end CallGate
