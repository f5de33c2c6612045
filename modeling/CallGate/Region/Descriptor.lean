import CallGate.Bytes
import CallGate.Region.Error

/-! The region descriptor: a count, then for each region a token, a length and so many bytes. -/

namespace CallGate

/-- One region of a descriptor. -/
structure RegionRecord where
  /-- The token the descriptor gives the region. -/
  token : UInt32
  /-- The code of the region. -/
  payload : Bytes
  deriving DecidableEq, Repr, Inhabited

namespace Descriptor

/-- The bytes of a descriptor that are still to be read. -/
structure Reader where
  /-- How many bytes have been read. -/
  offset : Nat
  /-- The bytes from there on. -/
  rest : Bytes
  deriving DecidableEq, Repr

namespace Reader

/-- The next `needed` bytes. Only a failure looks at everything that is left. -/
def take (reader : Reader) (needed : Nat) : Except DescriptorError (Bytes × Reader) :=
  let taken := reader.rest.take needed
  if taken.length = needed then
    .ok (taken, ⟨reader.offset + needed, reader.rest.drop needed⟩)
  else .error (.truncated reader.offset needed reader.rest.length)

/-- The next four bytes as a number. -/
def word (reader : Reader) : Except DescriptorError (UInt32 × Reader) :=
  match reader.take 4 with
  | .error error => .error error
  | .ok (bytes, reader) => .ok (UInt32.ofNat (Bytes.value bytes), reader)

/-- The next record: its token, its length and its payload. -/
def record (reader : Reader) : Except DescriptorError (RegionRecord × Reader) :=
  match reader.word with
  | .error error => .error error
  | .ok (token, reader) =>
    match reader.word with
    | .error error => .error error
    | .ok (length, reader) =>
      match reader.take length.toNat with
      | .error error => .error error
      | .ok (payload, reader) => .ok (⟨token, payload⟩, reader)

/-- The next `count` records, behind those read before. -/
def records : (count : Nat) → Reader → Array RegionRecord →
    Except DescriptorError (Array RegionRecord × Reader)
  | 0, reader, found => .ok (found, reader)
  | count + 1, reader, found =>
    match reader.record with
    | .error error => .error error
    | .ok (record, reader) => records count reader (found.push record)

end Reader

/-- Room set aside for records before they are read.

Each record needs eight bytes, so a large count cannot reserve more than the input can hold. -/
def reserve (bytes : Bytes) (count : Nat) : Nat := min count (bytes.length / 8)

/-- The records of a descriptor, which must be used up by them. -/
def parse (bytes : Bytes) : Except DescriptorError (List RegionRecord) :=
  match (Reader.mk 0 bytes).word with
  | .error error => .error error
  | .ok (count, reader) =>
    match reader.records count.toNat (Array.mkEmpty (reserve bytes count.toNat)) with
    | .error error => .error error
    | .ok (found, reader) =>
      if reader.rest.isEmpty then .ok found.toList else .error (.trailing reader.rest.length)

/-- A record as the descriptor holds it. -/
def encodeRecord (record : RegionRecord) : Bytes :=
  Bytes.ofUInt32 record.token ++ Bytes.littleEndian 4 record.payload.length ++ record.payload

/-- The descriptor of a list of regions. -/
def encode (records : List RegionRecord) : Bytes :=
  Bytes.littleEndian 4 records.length ++ records.flatMap encodeRecord

end Descriptor

end CallGate
