import CallGate.Numeral

/-! Internet addresses: their text, and the one canonical way of writing them. -/

namespace CallGate

/-- An address of four bytes. -/
structure Ipv4 where
  first : UInt8
  second : UInt8
  third : UInt8
  fourth : UInt8
  deriving DecidableEq, Repr

/-- An address of eight groups. -/
structure Ipv6 where
  /-- The groups, most significant first. -/
  groups : List UInt16
  /-- There are eight of them. -/
  length_groups : groups.length = 8
  deriving DecidableEq, Repr

/-- An address of either sort. -/
inductive IpAddress where
  | v4 (address : Ipv4)
  | v6 (address : Ipv6)
  deriving DecidableEq, Repr

/-- An address and a port. -/
structure SocketAddress where
  ip : IpAddress
  port : UInt16
  /-- The zone an address of eight groups is meant in. -/
  scope : UInt32 := 0
  deriving DecidableEq, Repr

namespace Address

/-- A number of one to `most` digits below `bound` at the front of a text.

Leading zeros may be forbidden. -/
def number (radix most bound : Nat) (leadingZeros : Bool) (text : List Char) :
    Option (Nat × List Char) :=
  let (digits, rest) := Numeral.split radix text
  -- All digits in a row belong to the number, even those that make it too long.
  if digits.isEmpty ∨ most < digits.length then none
  else if ¬ leadingZeros ∧ digits.head? = some 0 ∧ 1 < digits.length then none
  else if Numeral.value radix digits < bound then some (Numeral.value radix digits, rest)
  else none

/-- The given character at the front of a text. -/
def mark (expected : Char) : List Char → Option (List Char)
  | [] => none
  | c :: rest => if c = expected then some rest else none

/-- One of four decimal parts. -/
def octet (text : List Char) : Option (UInt8 × List Char) :=
  (number 10 3 256 false text).map fun (value, rest) => (UInt8.ofNat value, rest)

/-- Four decimal parts with dots between them, at the front of a text. -/
def ipv4 (text : List Char) : Option (Ipv4 × List Char) := do
  let (first, text) ← octet text
  let text ← mark '.' text
  let (second, text) ← octet text
  let text ← mark '.' text
  let (third, text) ← octet text
  let text ← mark '.' text
  let (fourth, text) ← octet text
  return (⟨first, second, third, fourth⟩, text)

/-- The two groups that four decimal parts fill. -/
def Ipv4.pair (address : Ipv4) : List UInt16 :=
  [address.first.toUInt16 * 256 + address.second.toUInt16,
    address.third.toUInt16 * 256 + address.fourth.toUInt16]

/-- One hexadecimal group. -/
def group (text : List Char) : Option (UInt16 × List Char) :=
  (number 16 4 65536 true text).map fun (value, rest) => (UInt16.ofNat value, rest)

/-- What follows the colon before a group. The first group has none. -/
def behindColon (first : Bool) (text : List Char) : Option (List Char) :=
  if first then some text else mark ':' text

/-- Up to `limit` groups with colons between them, at the front of a text.

The answer tells whether they end in four decimal parts, which fill two groups. -/
def groups : (limit : Nat) → (first : Bool) → List Char → List UInt16 × Bool × List Char
  | 0, _, text => ([], false, text)
  | limit + 1, first, text =>
    match behindColon first text with
    | none => ([], false, text)
    | some inner =>
      -- Decimal parts need room for two groups and end the sequence.
      match if limit = 0 then none else ipv4 inner with
      | some (address, rest) => (Ipv4.pair address, true, rest)
      | none =>
        match group inner with
        | none => ([], false, text)
        | some (value, rest) =>
          let (more, decimal, rest) := groups limit false rest
          (value :: more, decimal, rest)

/-- Eight groups at the front of a text, where a double colon stands for one or more zeros. -/
def ipv6 (text : List Char) : Option (Ipv6 × List Char) :=
  let (head, decimal, rest) := groups 8 true text
  if full : head.length = 8 then some (⟨head, full⟩, rest)
  else if decimal then none
  else
    match (mark ':' rest).bind (mark ':') with
    | none => none
    | some rest =>
      let (tail, _, rest) := groups (7 - head.length) true rest
      let filled := head ++ List.replicate (8 - head.length - tail.length) 0 ++ tail
      if full : filled.length = 8 then some (⟨filled, full⟩, rest) else none

/-- An address of either sort that is the whole text. -/
def ofText? (text : List Char) : Option IpAddress :=
  match ipv4 text with
  | some (address, []) => some (.v4 address)
  | some (_, _ :: _) => none
  | none =>
    match ipv6 text with
    | some (address, []) => some (.v6 address)
    | _ => none

/-- A decimal port of any length at the front of a text. -/
def port (text : List Char) : Option (UInt16 × List Char) :=
  (number 10 text.length 65536 true text).map fun (value, rest) => (UInt16.ofNat value, rest)

/-- A zone behind a percent sign. Without the sign the zone is zero. -/
def scope : List Char → Option (UInt32 × List Char)
  | '%' :: rest =>
    (number 10 rest.length UInt32.size true rest).map fun (value, rest) =>
      (UInt32.ofNat value, rest)
  | text => some (0, text)

/-- An address with a port that is the whole text. Eight groups stand in brackets. -/
def ofSocketText? (text : List Char) : Option SocketAddress :=
  let plain := do
    let (address, text) ← ipv4 text
    let text ← mark ':' text
    let (port, text) ← port text
    if text.isEmpty then some ({ ip := .v4 address, port } : SocketAddress) else none
  let bracketed := do
    let text ← mark '[' text
    let (address, text) ← ipv6 text
    let (scope, text) ← scope text
    let text ← mark ']' text
    let text ← mark ':' text
    let (port, text) ← port text
    if text.isEmpty then some ({ ip := .v6 address, port, scope } : SocketAddress) else none
  plain.orElse fun _ => bracketed

end Address

/-- Four decimal parts with dots between them. -/
def Ipv4.render (address : Ipv4) : List Char :=
  Numeral.render 10 address.first.toNat ++ '.' :: Numeral.render 10 address.second.toNat ++
    '.' :: Numeral.render 10 address.third.toNat ++ '.' :: Numeral.render 10 address.fourth.toNat

namespace Ipv6

/-- How many groups from a place on are zero. -/
def zerosAt (groups : List UInt16) (place : Nat) : Nat :=
  ((groups.drop place).takeWhile (· == 0)).length

/-- The first of the longest runs of zero groups: its place and its length. -/
def longestZeros (groups : List UInt16) : Nat × Nat :=
  (List.range groups.length).foldl
    (fun best place =>
      let length := zerosAt groups place
      if best.2 < length then (place, length) else best)
    (0, 0)

/-- Groups in hexadecimal with colons between them. -/
def renderGroups (groups : List UInt16) : List Char :=
  [':'].intercalate (groups.map fun group => Numeral.render 16 group.toNat)

/-- The four bytes of an address that stands for one of four bytes. -/
def mapped? (address : Ipv6) : Option Ipv4 :=
  match address.groups with
  | [0, 0, 0, 0, 0, 0xffff, high, low] =>
    some ⟨(high / 256).toUInt8, high.toUInt8, (low / 256).toUInt8, low.toUInt8⟩
  | _ => none

/-- The canonical text: the longest run of two or more zeros becomes a double colon.

An address that stands for one of four bytes ends in decimal parts. -/
def render (address : Ipv6) : List Char :=
  match address.mapped? with
  | some plain => "::ffff:".toList ++ plain.render
  | none =>
    let (place, length) := longestZeros address.groups
    if 1 < length then
      renderGroups (address.groups.take place) ++ ':' :: ':' ::
        renderGroups (address.groups.drop (place + length))
    else renderGroups address.groups

end Ipv6

/-- The canonical text of an address. -/
def IpAddress.render : IpAddress → List Char
  | v4 address => address.render
  | v6 address => address.render

/-- The canonical text of an address and its port. -/
def SocketAddress.render (address : SocketAddress) : List Char :=
  let port := ':' :: Numeral.render 10 address.port.toNat
  match address.ip with
  | .v4 ip => ip.render ++ port
  | .v6 ip =>
    let scope := if address.scope = 0 then [] else '%' :: Numeral.render 10 address.scope.toNat
    '[' :: ip.render ++ scope ++ ']' :: port

/-- The canonical text of an address and its port, as a string. -/
def SocketAddress.display (address : SocketAddress) : String := String.ofList address.render

end CallGate
