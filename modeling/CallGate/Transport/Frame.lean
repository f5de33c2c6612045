import CallGate.Transport

/-! Frames carry packets over a byte stream, each behind its length. -/

namespace CallGate.Frame

/-- The longest packet a frame can carry. -/
def maxLength : Nat := 4096

/-- The number of bytes that hold the length. -/
def headerLength : Nat := 4

/-- A packet with its length in front. Empty packets are refused like those that are too long. -/
def encode (packet : Bytes) : Except TransportError Bytes :=
  if packet.isEmpty ∨ maxLength < packet.length then .error (.frameTooLarge packet.length)
  else .ok (Bytes.littleEndian headerLength packet.length ++ packet)

/-- What a stretch of stream was split into. -/
structure Split where
  /-- The packets of all complete frames. -/
  packets : List Bytes
  /-- What is left, from the first incomplete frame or invalid length on. -/
  rest : Bytes
  /-- The invalid length that ended the splitting, if one did. -/
  invalid : Option Nat
  deriving DecidableEq, Repr

/-- Adds a packet in front. -/
def Split.prepend (packet : Bytes) (split : Split) : Split :=
  { split with packets := packet :: split.packets }

/-- Takes complete frames off the front of a stream for as long as there are any. -/
def split (stream : Bytes) : Split :=
  if stream.length < headerLength then ⟨[], stream, none⟩
  else
    let length := Bytes.value (stream.take headerLength)
    if length = 0 ∨ maxLength < length then ⟨[], stream, some length⟩
    else if stream.length < headerLength + length then ⟨[], stream, none⟩
    else
      let packet := (stream.drop headerLength).take length
      (split (stream.drop (headerLength + length))).prepend packet
termination_by stream.length
decreasing_by
  simp only [List.length_drop, headerLength] at *
  omega

end CallGate.Frame
