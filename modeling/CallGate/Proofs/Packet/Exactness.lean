import CallGate.Proofs.Packet.Layout

/-! Both layouts of packets are exact: what is written is read back, nothing else is read, and of
all that is wrong with other bytes the same thing is always told first. -/

namespace CallGate

namespace PacketKind

/-- The number in the first four bytes of a packet. -/
def number (packet : Bytes) : Nat := Bytes.value (packet.take size)

variable {packet : Bytes}

/-- With four bytes in front, what they name is the kind. -/
theorem peek_of_length (enough : size ≤ packet.length) :
    peek packet = ofWire (UInt32.ofNat (number packet)) := by
  have four : 4 ≤ packet.length := enough
  -- The length is enough, so the word in front is there.
  rw [peek, Bytes.word32?, if_pos four]
  rfl

/-- The number in front of a packet fits its four bytes. -/
theorem number_lt (enough : size ≤ packet.length) : number packet < 2 ^ 32 := by
  have four : (packet.take size).length = 4 := by
    rw [List.length_take]
    exact Nat.min_eq_left enough
  -- Four bytes are at most as many as a word has.
  have bound := Bytes.value_lt (packet.take size)
  rwa [four] at bound

/-- A packet is of a kind exactly when it opens with the number of the kind. -/
theorem peek_eq_ok_iff_number (enough : size ≤ packet.length) {kind : PacketKind} :
    peek packet = .ok kind ↔ number packet = kind.toWire.toNat := by
  -- The numbers that kinds are written as are different, and all fit a word.
  rw [peek_of_length enough, ofWire_eq_ok_iff, ← UInt32.toNat_inj,
    UInt32.toNat_ofNat_of_lt' (number_lt enough)]

/-- Numbers above two name no kind, and all others do. -/
theorem peek_cases (enough : size ≤ packet.length) :
    (2 < number packet ∧
      peek packet = .error (.unknownKind (UInt32.ofNat (number packet)))) ∨
    ∃ kind, number packet = kind.toWire.toNat ∧ peek packet = .ok kind := by
  have named (kind : PacketKind) (opens : number packet = kind.toWire.toNat) :
      ∃ kind, number packet = kind.toWire.toNat ∧ peek packet = .ok kind :=
    ⟨kind, opens, (peek_eq_ok_iff_number enough).mpr opens⟩
  rcases Nat.lt_or_ge 2 (number packet) with above | below
  · have same := UInt32.toNat_ofNat_of_lt' (number_lt enough)
    -- The three numbers that are tried are all too small.
    have differs {tried : UInt32} (small : tried.toNat ≤ 2) :
        UInt32.ofNat (number packet) ≠ tried := by
      rintro rfl
      omega
    refine .inl ⟨above, ?_⟩
    rw [peek_of_length enough, ofWire, if_neg (differs (by decide)), if_neg (differs (by decide)),
      if_neg (differs (by decide))]
  · have three : number packet = 0 ∨ number packet = 1 ∨ number packet = 2 := by omega
    rcases three with zero | one | two
    · exact .inr (named .keyExchange zero)
    · exact .inr (named .execute one)
    · exact .inr (named .stateTransfer two)

end PacketKind

namespace PacketShape

/-- Packets of the kind have the layout. -/
def Carries : PacketShape → PacketKind → Prop
  | keyExchange, kind => kind = .keyExchange
  | envelope, kind => kind.isEnvelope = true

/-- Why a packet does not have a layout of so many bytes. Its length is judged before its number,
and whether there is such a kind before whether the layout carries it. -/
inductive Refuses (shape : PacketShape) (size : Nat) (packet : Bytes) : PacketError → Prop
  | length (other : packet.length ≠ size) :
    Refuses shape size packet (.malformed size packet.length)
  | number (exact : packet.length = size) (above : 2 < PacketKind.number packet) :
    Refuses shape size packet (.unknownKind (UInt32.ofNat (PacketKind.number packet)))
  | kind (exact : packet.length = size) {kind : PacketKind}
    (named : PacketKind.number packet = kind.toWire.toNat) (other : ¬ shape.Carries kind) :
    Refuses shape size packet (.wrongKind shape kind)

/-- Messages of a layout of so many bytes and the packets they are written as determine each other,
and what is no such packet is refused for the first thing that is wrong. -/
structure Exact {α : Type} (shape : PacketShape) (size : Nat) (kind : α → PacketKind)
    (encode : α → Bytes) (decode : Bytes → Except PacketError α) : Prop where
  decode_encode (message : α) (carried : shape.Carries (kind message)) :
    decode (encode message) = .ok message
  encode_decode (packet : Bytes) (message : α) (decoded : decode packet = .ok message) :
    encode message = packet
  accepted (packet : Bytes) : (∃ message, decode packet = .ok message) ↔
    packet.length = size ∧
      ∃ kind, shape.Carries kind ∧ PacketKind.number packet = kind.toWire.toNat
  refused (packet : Bytes) (error : PacketError) :
    decode packet = .error error ↔ shape.Refuses size packet error
  peeked (packet : Bytes) (message : α) (decoded : decode packet = .ok message) :
    PacketKind.peek packet = .ok (kind message)

/-- Reading a layout judges the length, then the number, then the kind, and nothing else, and it
takes apart what writing has put together. -/
structure Judges {α : Type} (shape : PacketShape) (size : Nat) (kind : α → PacketKind)
    (encode : α → Bytes) (decode : Bytes → Except PacketError α) : Prop where
  enough : PacketKind.size ≤ size
  malformed (packet : Bytes) (other : packet.length ≠ size) :
    decode packet = .error (.malformed size packet.length)
  unknown (packet : Bytes) (error : PacketError) (exact : packet.length = size)
    (refused : PacketKind.peek packet = .error error) : decode packet = .error error
  wrong (packet : Bytes) (kind : PacketKind) (exact : packet.length = size)
    (found : PacketKind.peek packet = .ok kind) (other : ¬ shape.Carries kind) :
    decode packet = .error (.wrongKind shape kind)
  fitting (packet : Bytes) (kind : PacketKind) (exact : packet.length = size)
    (found : PacketKind.peek packet = .ok kind) (carried : shape.Carries kind) :
    ∃ message, decode packet = .ok message
  read (message : α) (carried : shape.Carries (kind message)) :
    decode (encode message) = .ok message
  written (packet : Bytes) (message : α) (decoded : decode packet = .ok message) :
    packet = encode message ∧ shape.Carries (kind message)
  length (message : α) : (encode message).length = size
  opening (message : α) : PacketKind.peek (encode message) = .ok (kind message)

namespace Judges

variable {α : Type} {shape : PacketShape} {size : Nat} {kind : α → PacketKind}
  {encode : α → Bytes} {decode : Bytes → Except PacketError α}
  (judges : shape.Judges size kind encode decode)

include judges

/-- Every packet fails one of the tests, or it is taken apart. -/
theorem refuses_or_decoded (packet : Bytes) :
    (∃ error, shape.Refuses size packet error) ∨ ∃ message, decode packet = .ok message := by
  -- The length is looked at first, then the number, then whether the kind is carried.
  by_cases exact : packet.length = size
  · -- With the right length there is a number, and so a kind or none.
    rcases PacketKind.peek_cases (exact ▸ judges.enough) with
      ⟨above, _⟩ | ⟨kind, named, found⟩
    · exact .inl ⟨_, .number exact above⟩
    · by_cases carried : shape.Carries kind
      · exact .inr (judges.fitting packet kind exact found carried)
      · exact .inl ⟨_, .kind exact named carried⟩
  · exact .inl ⟨_, .length exact⟩

/-- A packet that fails a test is refused for it. -/
theorem refused_of_refuses {packet : Bytes} {error : PacketError}
    (refuses : shape.Refuses size packet error) : decode packet = .error error := by
  -- Each test is made by one step of reading, with those before it passed.
  cases refuses with
  | length other => exact judges.malformed packet other
  | number exact above =>
    rcases PacketKind.peek_cases (exact ▸ judges.enough) with ⟨_, refused⟩ | ⟨kind, named, _⟩
    · exact judges.unknown packet _ exact refused
    · -- No kind has a number that large.
      cases kind <;> rw [named] at above <;> exact absurd above (by decide)
  | kind exact named other =>
    -- The number is that of a kind, so the kind is found before it is turned away.
    have found := (PacketKind.peek_eq_ok_iff_number (exact ▸ judges.enough)).mpr named
    exact judges.wrong packet _ exact found other

/-- So no packet is refused for anything but the first test it fails. -/
theorem refused_iff (packet : Bytes) (error : PacketError) :
    decode packet = .error error ↔ shape.Refuses size packet error := by
  refine ⟨fun refused => ?_, judges.refused_of_refuses⟩
  -- It does fail a test, since it is not taken apart, and it was refused for that one.
  rcases judges.refuses_or_decoded packet with ⟨first, refuses⟩ | ⟨message, decoded⟩
  · cases (judges.refused_of_refuses refuses).symm.trans refused
    exact refuses
  · cases decoded.symm.trans refused

/-- What is read is of the kind that the packet shows. -/
theorem peeked (packet : Bytes) (message : α) (decoded : decode packet = .ok message) :
    PacketKind.peek packet = .ok (kind message) := by
  -- What is read was written, and what is written opens with its kind.
  rw [(judges.written packet message decoded).1, judges.opening]

/-- A packet is taken apart if it has the length, and shows a kind that the layout carries. -/
theorem accepted_iff (packet : Bytes) : (∃ message, decode packet = .ok message) ↔
    packet.length = size ∧
      ∃ kind, shape.Carries kind ∧ PacketKind.number packet = kind.toWire.toNat := by
  constructor
  · -- What was read was written, and writing puts the length and the kind there.
    rintro ⟨message, decoded⟩
    have shown := judges.peeked packet message decoded
    obtain ⟨rfl, carried⟩ := judges.written packet message decoded
    have exact := judges.length message
    exact ⟨exact, kind message, carried,
      (PacketKind.peek_eq_ok_iff_number (exact ▸ judges.enough)).mp shown⟩
  -- With the length, the number and the kind all three tests are passed.
  · rintro ⟨exact, kind, carried, named⟩
    have found := (PacketKind.peek_eq_ok_iff_number (exact ▸ judges.enough)).mpr named
    exact judges.fitting packet kind exact found carried

/-- A layout is exact if reading judges in this order. -/
theorem exact : shape.Exact size kind encode decode where
  decode_encode := judges.read
  encode_decode packet message decoded := (judges.written packet message decoded).1.symm
  accepted := judges.accepted_iff
  refused := judges.refused_iff
  peeked := judges.peeked

end Judges

end PacketShape

/-- The layout of key exchanges is exact. -/
theorem KeyExchange.exact :
    PacketShape.keyExchange.Exact size (fun _ => .keyExchange) encode decode := by
  -- The judge is the reader itself, so each field is a look at one of its steps.
  apply PacketShape.Judges.exact
  constructor
  case enough => decide
  case malformed =>
    intro packet other
    rw [decode, dif_neg other]
  case unknown =>
    intro packet error exact refused
    rw [decode, dif_pos exact, refused]
  case wrong =>
    intro packet kind exact found other
    rw [decode, dif_pos exact, found]
    -- Any kind but the one of key exchanges is turned away.
    cases kind
    · exact absurd rfl other
    · rfl
    · rfl
  case fitting =>
    rintro packet kind exact found rfl
    rw [decode, dif_pos exact, found]
    exact ⟨_, rfl⟩
  case read => exact fun message _ => decode_encode message
  case written => exact fun packet message decoded => ⟨eq_encode_of_decode decoded, rfl⟩
  case length => exact length_encode
  case opening => exact peek_encode

/-- The layout of envelopes is exact. -/
theorem Envelope.exact : PacketShape.envelope.Exact size Envelope.kind encode decode := by
  -- As with key exchanges, each field is a look at one step of the reader.
  apply PacketShape.Judges.exact
  constructor
  case enough => decide
  case malformed =>
    intro packet other
    rw [decode, dif_neg other]
  case unknown =>
    intro packet error exact refused
    rw [decode, dif_pos exact, refused]
  case wrong =>
    intro packet kind exact found other
    rw [decode, dif_pos exact, found]
    exact if_neg other
  case fitting =>
    intro packet kind exact found carried
    rw [decode, dif_pos exact, found]
    exact ⟨_, if_pos carried⟩
  case read => exact decode_encode
  case written => exact fun packet envelope decoded => eq_encode_of_decode decoded
  case length => exact length_encode
  case opening => exact peek_encode

/-- Key exchanges are read from the packets of forty bytes that open with four zeros. -/
theorem KeyExchange.accepted_iff {packet : Bytes} :
    (∃ message, decode packet = .ok message) ↔
      packet.length = 40 ∧ packet.take 4 = [0, 0, 0, 0] := by
  have zeros : PacketKind.keyExchange.toBytes = [0, 0, 0, 0] := by decide
  rw [exact.accepted, ← zeros, show size = 40 from rfl]
  -- Four zeros are the number of key exchanges.
  refine and_congr_right fun forty => ?_
  have enough : PacketKind.size ≤ packet.length := forty ▸ by decide
  rw [show packet.take 4 = PacketKind.keyExchange.toBytes ↔ _ from PacketKind.peek_eq_ok_iff.symm,
    PacketKind.peek_eq_ok_iff_number enough]
  exact ⟨fun ⟨_, same, named⟩ => same ▸ named, fun named => ⟨_, rfl, named⟩⟩

/-- Envelopes are read from the packets of a hundred and eighty bytes that open with one or two. -/
theorem Envelope.accepted_iff {packet : Bytes} :
    (∃ envelope, decode packet = .ok envelope) ↔
      packet.length = 180 ∧ (PacketKind.number packet = 1 ∨ PacketKind.number packet = 2) := by
  rw [exact.accepted, show size = 180 from rfl]
  -- Two kinds are carried, and their numbers are one and two.
  refine and_congr_right fun _ => ⟨?_, ?_⟩
  · rintro ⟨kind, carried, named⟩
    cases kind
    · cases carried
    · exact .inl named
    · exact .inr named
  · rintro (one | two)
    · exact ⟨.execute, rfl, one⟩
    · exact ⟨.stateTransfer, rfl, two⟩

/-- Both layouts are exact, key exchanges with forty bytes and envelopes with a hundred and eighty,
and no packet has both. An envelope of the other layout's kind can be written and is not read. -/
theorem packets_exact :
    PacketShape.keyExchange.Exact 40 (fun _ => .keyExchange) KeyExchange.encode
        KeyExchange.decode ∧
      PacketShape.envelope.Exact 180 Envelope.kind Envelope.encode Envelope.decode ∧
      (∀ packet, (∃ message, KeyExchange.decode packet = .ok message) ↔
        packet.length = 40 ∧ packet.take 4 = [0, 0, 0, 0]) ∧
      (∀ packet, (∃ envelope, Envelope.decode packet = .ok envelope) ↔
        packet.length = 180 ∧
          (PacketKind.number packet = 1 ∨ PacketKind.number packet = 2)) ∧
      (∀ envelope : Envelope, envelope.kind = .keyExchange →
        envelope.encode.length = 180 ∧
          Envelope.decode envelope.encode = .error (.wrongKind .envelope .keyExchange)) ∧
      ∀ packet message envelope, KeyExchange.decode packet = .ok message →
        Envelope.decode packet ≠ .ok envelope := by
  -- Most parts are what is known of the two layouts.
  refine ⟨KeyExchange.exact, Envelope.exact, fun _ => KeyExchange.accepted_iff,
    fun _ => Envelope.accepted_iff, ?_, ?_⟩
  -- An envelope can be written with a kind that it must not have, and is then refused for it.
  · intro envelope foreign
    have length := envelope.length_encode
    have opens := envelope.peek_encode
    rw [foreign, PacketKind.peek_eq_ok_iff_number (length ▸ by decide)] at opens
    have uncarried : ¬ PacketShape.envelope.Carries .keyExchange := by
      simp [PacketShape.Carries, PacketKind.isEnvelope]
    exact ⟨length, (Envelope.exact.refused _ _).mpr (.kind length opens uncarried)⟩
  · -- The two layouts differ in length already.
    intro packet message envelope exchanged enclosed
    have short := (KeyExchange.accepted_iff.mp ⟨message, exchanged⟩).1
    have long := (Envelope.accepted_iff.mp ⟨envelope, enclosed⟩).1
    omega

/-- Forty zeros are the key exchange of version zero with the zero key, and no envelope. As many
zeros as an envelope has bytes are written and not read. -/
theorem packets_exact_of_zeros :
    let packet : Bytes := List.replicate 40 0
    let message : KeyExchange := ⟨0, ⟨default⟩⟩
    let envelope : Envelope := ⟨.keyExchange, default, default, default⟩
    KeyExchange.decode packet = .ok message ∧ message.encode = packet ∧
      PacketKind.peek packet = .ok .keyExchange ∧ Envelope.decode packet ≠ .ok envelope ∧
      envelope.kind = .keyExchange ∧
      Envelope.decode envelope.encode = .error (.wrongKind .envelope .keyExchange) := by
  -- The packet is what the message is written as, and so is read as it.
  intro packet message envelope
  obtain ⟨exchanges, _, _, _, foreign, apart⟩ := packets_exact
  have same : message.encode = packet := by decide
  have decoded : KeyExchange.decode packet = .ok message :=
    same ▸ exchanges.decode_encode message rfl
  exact ⟨decoded, exchanges.encode_decode packet message decoded,
    exchanges.peeked packet message decoded, apart packet message envelope decoded, rfl,
    (foreign envelope rfl).2⟩

end CallGate
