import CallGate.Bytes

/-! Names for connections and sessions. -/

namespace CallGate

/-- The handle a transport gives to one live connection and never gives again. -/
structure ConnectionId where
  /-- The number behind the handle. -/
  number : UInt64
  deriving DecidableEq, Repr, Inhabited

namespace ConnectionId

/-- The handle as written in messages. -/
def display (id : ConnectionId) : String := "conn:" ++ toString id.number.toNat

/-- The handle as shown to a developer. -/
def describe (id : ConnectionId) : String := "ConnectionId(" ++ toString id.number.toNat ++ ")"

/-- Handles are ordered by their numbers. -/
def le (left right : ConnectionId) : Bool := left.number ≤ right.number

end ConnectionId

/-- A universally unique identifier that ties log entries of one session together. -/
structure SessionId where
  /-- The sixteen bytes of the identifier, in written order. -/
  bytes : FixedBytes 16
  deriving DecidableEq, Repr, Inhabited

namespace SessionId

/-- Where hyphens stand in the hyphenated form. -/
def hyphens : List Nat := [8, 13, 18, 23]

/-- The identifier in lower case, in groups of 8, 4, 4, 4 and 12 digits. -/
def uuid (id : SessionId) : String :=
  let digits := id.bytes.toHex.toList
  let group (start count : Nat) := String.ofList ((digits.drop start).take count)
  String.intercalate "-" [group 0 8, group 8 4, group 12 4, group 16 4, group 20 12]

/-- The identifier as written in messages. -/
def display (id : SessionId) : String := "session:" ++ id.uuid

/-- Thirty-two digits without hyphens. -/
def ofDigits? (digits : List Char) : Option SessionId := do
  let bytes ← Bytes.ofHexDigits? digits
  let bytes ← FixedBytes.ofList? 16 bytes
  return ⟨bytes⟩

/-- Five groups of digits with a hyphen between them. -/
def ofHyphenated? (text : List Char) : Option SessionId :=
  -- The hyphens must stand exactly where the groups end.
  if text.length = 36 ∧ hyphens.all fun place => text[place]? == some '-' then
    let group (start count : Nat) := (text.drop start).take count
    ofDigits? (group 0 8 ++ group 9 4 ++ group 14 4 ++ group 19 4 ++ group 24 12)
  else none

/-- The marker of the uniform-resource-name form, in lower case. -/
def urnPrefix : List Char := "urn:uuid:".toList

/-- The identifier a text spells: bare digits, hyphenated, hyphenated in braces, or as a name.

The case of letters matters nowhere. -/
def ofText? (text : String) : Option SessionId :=
  let chars := text.toList
  if chars.length = 32 then ofDigits? chars
  else if chars.length = 36 then ofHyphenated? chars
  else if chars.length = 38 ∧ chars.head? = some '\x7b' ∧ chars.getLast? = some '\x7d' then
    ofHyphenated? ((chars.drop 1).take 36)
  else if chars.length = 45 ∧ (chars.take 9).map Char.toLower = urnPrefix then
    ofHyphenated? (chars.drop 9)
  else none

/-- The random identifier made of sixteen random bytes: version four, standard variant. -/
def ofRandom (random : FixedBytes 16) : SessionId :=
  let stamp (place : Nat) (byte : UInt8) : UInt8 :=
    if place = 6 then (byte &&& 0x0F) ||| 0x40
    else if place = 8 then (byte &&& 0x3F) ||| 0x80
    else byte
  ⟨⟨random.toList.mapIdx stamp, by simp [random.length_toList]⟩⟩

end SessionId

end CallGate
