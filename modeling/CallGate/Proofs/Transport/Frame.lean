import CallGate.Proofs.Bytes
import CallGate.Transport.Frame
import Mathlib.Data.List.Forall2

/-! The frames of a stream, and that no cut of the stream changes them. -/

namespace CallGate.Frame

/-- The length that a header announces is one that a packet can have. -/
def Announces (header : Bytes) (length : Nat) : Prop :=
  header.length = headerLength ∧ Bytes.value header = length ∧ 1 ≤ length ∧ length ≤ maxLength

/-- What a stream is parsed into, frame by frame: its packets, what is left of it, and the invalid
length that ended the parsing, if one did. -/
inductive Parse : (stream : Bytes) → (packets : List Bytes) → (rest : Bytes) →
    (invalid : Option Nat) → Prop
  /-- There are too few bytes for a header. -/
  | short (stream : Bytes) (few : stream.length < headerLength) : Parse stream [] stream none
  /-- A header announces a length that no packet can have. -/
  | invalid (header rest : Bytes) (four : header.length = headerLength)
    (bad : Bytes.value header = 0 ∨ maxLength < Bytes.value header) :
    Parse (header ++ rest) [] (header ++ rest) (some (Bytes.value header))
  /-- The packet that a header announces is not there as a whole. -/
  | incomplete (header rest : Bytes) (length : Nat) (announced : Announces header length)
    (few : rest.length < length) : Parse (header ++ rest) [] (header ++ rest) none
  /-- A header is followed by the packet that it announces. -/
  | frame (header packet : Bytes) {stream rest : Bytes} {packets : List Bytes}
    {invalid : Option Nat} (announced : Announces header packet.length)
    (tail : Parse stream packets rest invalid) :
    Parse (header ++ packet ++ stream) (packet :: packets) rest invalid

/-- The front of a stream behind a whole header. -/
theorem take_header {header : Bytes} (four : header.length = headerLength) (rest : Bytes) :
    (header ++ rest).take headerLength = header := by
  -- The header is as long as the part that is taken.
  rw [← four, List.take_left]

/-- A stream that is long enough for a header has one in front. -/
theorem length_take_header {stream : Bytes} (enough : ¬ stream.length < headerLength) :
    (stream.take headerLength).length = headerLength := by
  -- The part is as long as the header unless the stream ends before.
  rw [List.length_take]
  omega

/-- Splitting finds the parse of a stream. -/
theorem Parse.split_eq {stream rest : Bytes} {packets : List Bytes} {invalid : Option Nat}
    (parse : Parse stream packets rest invalid) : split stream = ⟨packets, rest, invalid⟩ := by
  -- Each rule of the parse is one of the exits of the splitting.
  induction parse with
  | short stream few =>
    -- Too few bytes for a header.
    rw [split, if_pos few]
  | invalid header rest four bad =>
    have enough : ¬ (header ++ rest).length < headerLength := by
      rw [List.length_append]
      omega
    -- The header is whole, and its length is not allowed.
    rw [split, if_neg enough, take_header four, if_pos bad]
  | incomplete header rest length announced few =>
    obtain ⟨four, rfl, some, small⟩ := announced
    have enough : ¬ (header ++ rest).length < headerLength := by
      rw [List.length_append]
      omega
    have good : ¬ (Bytes.value header = 0 ∨ maxLength < Bytes.value header) := by omega
    have part : (header ++ rest).length < headerLength + Bytes.value header := by
      rw [List.length_append]
      omega
    -- The header is whole and its length allowed, but the packet is not all there.
    rw [split, if_neg enough, take_header four, if_neg good, if_pos part]
  | @frame header packet stream rest packets invalid announced tail ih =>
    obtain ⟨four, length, some, small⟩ := announced
    have enough : ¬ (header ++ packet ++ stream).length < headerLength := by
      simp only [List.length_append]
      omega
    have good : ¬ (Bytes.value header = 0 ∨ maxLength < Bytes.value header) := by omega
    have whole : ¬ (header ++ packet ++ stream).length < headerLength + Bytes.value header := by
      simp only [List.length_append]
      omega
    have front : (header ++ packet ++ stream).take headerLength = header := by
      rw [List.append_assoc, take_header four]
    have body : ((header ++ packet ++ stream).drop headerLength).take packet.length = packet := by
      rw [List.append_assoc, ← four, List.drop_left, List.take_left]
    have later : (header ++ packet ++ stream).drop (headerLength + packet.length) = stream := by
      rw [← four, ← List.length_append, List.drop_left]
    -- The whole frame is there, and the splitting goes on behind it.
    rw [split, if_neg enough, front, if_neg good, if_neg whole, length, body, later, ih]
    rfl

/-- Every stream has a parse, and splitting finds it. -/
theorem parse_split (stream : Bytes) :
    Parse stream (split stream).packets (split stream).rest (split stream).invalid := by
  -- Each exit of the splitting is one of the rules, and the stream is cut where the rule cuts it.
  fun_induction split stream with
  | case1 stream few => exact .short stream few
  | case2 stream enough length bad =>
    have four := length_take_header enough
    -- The header is whole, and it is cut off where the rule wants it.
    have cut := Parse.invalid (stream.take headerLength) (stream.drop headerLength) four bad
    rwa [List.take_append_drop] at cut
  | case3 stream enough length good part =>
    have four := length_take_header enough
    have few : (stream.drop headerLength).length < length := by
      rw [List.length_drop]
      omega
    have cut := Parse.incomplete (stream.take headerLength) (stream.drop headerLength) length
      ⟨four, rfl, by omega, by omega⟩ few
    rwa [List.take_append_drop] at cut
  | case4 stream enough length good whole packet ih =>
    have four := length_take_header enough
    -- The stream is long enough for the packet, so cutting it off takes nothing less.
    have exact : packet.length = length := by
      simp only [packet, List.length_take, List.length_drop]
      omega
    have announced : Announces (stream.take headerLength) packet.length := by
      rw [exact]
      exact ⟨four, rfl, by omega, by omega⟩
    -- The header, the packet and what follows it make up the stream.
    have cut := Parse.frame (stream.take headerLength) packet announced ih
    have joined : stream.take headerLength ++ packet ++ stream.drop (headerLength + length) =
        stream := by
      rw [← List.drop_drop, List.append_assoc, List.take_append_drop, List.take_append_drop]
    rwa [joined] at cut

/-- A stream has one parse, and splitting finds it. -/
theorem parse_iff {stream rest : Bytes} {packets : List Bytes} {invalid : Option Nat} :
    Parse stream packets rest invalid ↔ split stream = ⟨packets, rest, invalid⟩ := by
  -- Splitting finds each parse, and what it finds is one.
  constructor
  · exact Parse.split_eq
  · intro found
    have parse := parse_split stream
    rwa [found] at parse

/-- What is left of a stream holds no further frame. -/
theorem Parse.rest {stream rest : Bytes} {packets : List Bytes} {invalid : Option Nat}
    (parse : Parse stream packets rest invalid) : Parse rest [] rest invalid := by
  -- Each rule ends with a rest that it ends with again, and frames are passed over.
  induction parse with
  | short stream few => exact .short stream few
  | invalid header rest four bad => exact .invalid header rest four bad
  | incomplete header rest length announced few =>
    exact .incomplete header rest length announced few
  | frame header packet announced tail ih => exact ih

/-- An invalid header ends the parse of whatever follows it. -/
theorem Parse.append_of_invalid {stream rest : Bytes} {packets : List Bytes} {length : Nat}
    (parse : Parse stream packets rest (some length)) (unread : Bytes) :
    Parse (stream ++ unread) packets (rest ++ unread) (some length) := by
  generalize ended : some length = invalid at parse
  -- The bad header stays where it is, and the frames before it are not touched.
  induction parse with
  | short stream few => cases ended
  | invalid header rest four bad =>
    rw [List.append_assoc]
    exact .invalid header _ four bad
  | incomplete header rest length announced few => cases ended
  | frame header packet announced tail ih =>
    rw [List.append_assoc]
    exact .frame header packet announced (ih ended)

/-- A parse goes on from what is left of a stream as if the stream had not been cut there. -/
theorem Parse.append {stream rest more left : Bytes} {packets others : List Bytes}
    {invalid : Option Nat} (parse : Parse stream packets rest none)
    (next : Parse (rest ++ more) others left invalid) :
    Parse (stream ++ more) (packets ++ others) left invalid := by
  generalize going : (none : Option Nat) = first at parse
  -- Frames are taken off the front one by one, until only the rest is left to go on with.
  induction parse with
  | short stream few => exact next
  | invalid header rest four bad => cases going
  | incomplete header rest length announced few => exact next
  | frame header packet announced tail ih =>
    rw [List.append_assoc]
    exact .frame header packet announced (ih next going)

/-- A packet can be framed exactly when it is neither empty nor longer than a frame may be, and
the frame is the header that announces it in front of it. -/
theorem encode_eq {packet : Bytes} (some : 1 ≤ packet.length) (small : packet.length ≤ maxLength) :
    ∃ header, Announces header packet.length ∧ encode packet = .ok (header ++ packet) := by
  -- The longest packet is still far shorter than what four bytes can announce.
  have bound : packet.length < 256 ^ headerLength := by
    rw [maxLength] at small
    rw [headerLength]
    omega
  refine ⟨Bytes.littleEndian headerLength packet.length, ⟨?_, ?_, some, small⟩, ?_⟩
  · exact Bytes.length_littleEndian _ _
  · rw [Bytes.value_littleEndian, Nat.mod_eq_of_lt bound]
  · have nonempty : packet.isEmpty = false := by
      cases packet with
      | nil => simp at some
      | cons byte rest => rfl
    have short : ¬ maxLength < packet.length := by omega
    -- The packet is neither empty nor too long, so framing puts the header in front.
    simp only [encode, nonempty, short, Bool.false_eq_true, or_self, if_false]

/-- Every other length is refused. -/
theorem encode_of_length {packet : Bytes}
    (unfit : packet.length = 0 ∨ maxLength < packet.length) :
    encode packet = .error (.frameTooLarge packet.length) := by
  -- Both conditions for the refusal are about the length alone.
  rw [encode, if_pos]
  rcases unfit with none | long
  · exact .inl (by simp [List.length_eq_zero_iff.mp none])
  · exact .inr long

/-- A packet can be framed exactly when its length is one that frames can announce. -/
theorem exists_encode_iff {packet : Bytes} :
    (∃ frame, encode packet = .ok frame) ↔ 1 ≤ packet.length ∧ packet.length ≤ 4096 := by
  constructor
  · rintro ⟨frame, framed⟩
    -- A frame was made, so the length is not one of those that are refused.
    by_cases unfit : packet.length = 0 ∨ maxLength < packet.length
    · rw [encode_of_length unfit] at framed
      cases framed
    · rw [maxLength] at unfit
      omega
  · rintro ⟨some, small⟩
    -- The frame is made of the header and the packet.
    obtain ⟨header, _, framed⟩ := encode_eq some small
    exact ⟨header ++ packet, framed⟩

/-- Frames one behind the other are parsed into exactly the packets they were made of. -/
theorem parse_encoded {packets frames : List Bytes}
    (encoded : List.Forall₂ (fun packet frame => encode packet = .ok frame) packets frames) :
    Parse frames.flatten packets [] none := by
  -- The frames are taken off one by one, as they were put together.
  induction encoded with
  | nil => exact .short [] (by decide)
  | @cons packet frame packets frames framed rest ih =>
    -- The packet was framed, so its frame is a header that announces it and the packet itself.
    obtain ⟨some, small⟩ := exists_encode_iff.mp ⟨frame, framed⟩
    obtain ⟨header, announced, made⟩ := encode_eq some small
    cases made.symm.trans framed
    exact .frame header packet announced ih

end CallGate.Frame
