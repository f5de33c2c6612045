import CallGate.Packet.Envelope
import CallGate.Packet.KeyExchange
import CallGate.Proofs.Bytes

/-! Packets are read back from what they are written as, and nothing else is read. -/

namespace CallGate

namespace PacketKind

/-- A number names a kind exactly when the kind is written as it. -/
theorem ofWire_eq_ok_iff {raw : UInt32} {kind : PacketKind} :
    ofWire raw = .ok kind ↔ raw = kind.toWire := by
  constructor
  · intro named
    -- Each number that is tried names its own kind, and any other one is refused.
    unfold ofWire at named
    split at named
    · cases named; assumption
    · split at named
      · cases named; assumption
      · split at named
        · cases named; assumption
        · cases named
  · rintro rfl
    -- The number that a kind is written as is the one that is tried for it.
    cases kind <;> rfl

/-- A request opens with the number one. -/
theorem toBytes_execute : execute.toBytes = [1, 0, 0, 0] := by
  -- The kind is written as a word with its low byte first.
  decide

/-- A packet is of a kind exactly when it opens with the bytes of the kind. -/
theorem peek_eq_ok_iff {packet : Bytes} {kind : PacketKind} :
    peek packet = .ok kind ↔ packet.take size = kind.toBytes := by
  unfold peek
  cases read : packet.word32? with
  | none =>
    -- Without four bytes there is nothing that could name a kind.
    simp only [reduceCtorEq, false_iff]
    intro opening
    have found : packet.word32? = some kind.toWire := Bytes.word32?_eq_some_iff.mpr opening
    simp [found] at read
  -- With four bytes there is a number, which names the kind just when it is written as it.
  | some raw =>
    rw [ofWire_eq_ok_iff, toBytes, size, ← Bytes.word32?_eq_some_iff, read, Option.some.injEq]

/-- What follows the bytes of a kind does not matter for the kind. -/
@[simp] theorem peek_append (kind : PacketKind) (rest : Bytes) :
    peek (kind.toBytes ++ rest) = .ok kind := by
  -- Four bytes are looked at, and these are the ones in front.
  rw [peek_eq_ok_iff]
  simp

end PacketKind

namespace KeyExchange

/-- Every key-exchange packet is forty bytes long. -/
@[simp] theorem length_encode (message : KeyExchange) : message.encode.length = size := by
  -- The three fields have fixed lengths, which add up to forty.
  simp [encode, size, Bytes.ofUInt32, message.publicKey.bytes.length_toList]
  omega

/-- A key exchange that was written opens like one. -/
@[simp] theorem peek_encode (message : KeyExchange) :
    PacketKind.peek message.encode = .ok .keyExchange := by
  -- The kind comes first, and nothing behind it is looked at.
  rw [encode, List.append_assoc, PacketKind.peek_append]

/-- A key exchange that was written is read back. -/
@[simp] theorem decode_encode (message : KeyExchange) : decode message.encode = .ok message := by
  -- Both fields are read from the places they were written to.
  have version : (message.encode.drop 4).take 4 = Bytes.ofUInt32 message.version := by
    simp [encode, Bytes.ofUInt32, PacketKind.toBytes]
  have key (within : 8 + keySize ≤ message.encode.length) :
      FixedBytes.slice message.encode 8 keySize within = message.publicKey.bytes := by
    have whole : message.encode = PacketKind.keyExchange.toBytes ++
        Bytes.ofUInt32 message.version ++ message.publicKey.bytes.toList ++ [] := by simp [encode]
    simp only [whole]
    exact FixedBytes.slice_middle _ _ _ (by simp [Bytes.ofUInt32, PacketKind.size]) _
  simp only [decode, length_encode, dif_pos, peek_encode, version, key,
    Bytes.ofNat_value_ofUInt32]

/-- Only packets that a key exchange is written as are read as one. -/
theorem eq_encode_of_decode {packet : Bytes} {message : KeyExchange}
    (decoded : decode packet = .ok message) : packet = message.encode := by
  unfold decode at decoded
  -- A packet of any other length is refused before anything is read.
  split at decoded
  · rename_i exact
    have length : packet.length = 40 := exact
    cases peeked : PacketKind.peek packet with
    | error error => simp [peeked] at decoded
    | ok kind =>
      cases kind <;> simp only [peeked, reduceCtorEq, Except.ok.injEq] at decoded
      -- The fields are the stretches the packet is cut into, one behind the other.
      have opening : packet.take 4 = PacketKind.keyExchange.toBytes :=
        PacketKind.peek_eq_ok_iff.mp peeked
      have version : ((packet.drop 4).take 4).length = 4 := by simp [length]
      rw [← decoded, encode, ← opening, Bytes.ofUInt32_ofNat_value version, ← List.take_add]
      have joined : packet.take 8 ++ (packet.drop 8).take keySize = packet.take 40 :=
        List.take_add.symm
      exact (joined.trans (List.take_of_length_le (Nat.le_of_eq length))).symm
  · cases decoded

/-- The fields of a key exchange lie at fixed places of its packet. -/
theorem eq_encode_iff {packet : Bytes} {message : KeyExchange} :
    packet = message.encode ↔ packet.length = 40 ∧ packet.take 4 = [0, 0, 0, 0] ∧
      (packet.drop 4).take 4 = Bytes.ofUInt32 message.version ∧
      packet.drop 8 = message.publicKey.bytes.toList := by
  have opening : PacketKind.keyExchange.toBytes = [0, 0, 0, 0] := by decide
  have version : (Bytes.ofUInt32 message.version).length = 4 := by simp [Bytes.ofUInt32]
  -- Writing puts the fields at their places, and cutting there finds them.
  constructor
  · rintro rfl
    refine ⟨length_encode message, ?_, ?_, ?_⟩
    · simp [encode, opening]
    · simp [encode, opening, version]
    · simp [encode, opening, version]
  · rintro ⟨length, first, second, last⟩
    -- The three stretches are cut from the packet one behind the other.
    have early : packet.take 4 ++ (packet.drop 4).take 4 = packet.take 8 := List.take_add.symm
    rw [encode, opening, ← first, ← second, ← last, early, List.take_append_drop]

/-- Forty bytes that open like a key exchange of a version are read as one. -/
theorem exists_decode_iff {packet : Bytes} {version : UInt32} :
    (∃ message, decode packet = .ok message ∧ message.version = version) ↔
      packet.length = 40 ∧ packet.take 4 = [0, 0, 0, 0] ∧
        (packet.drop 4).take 4 = Bytes.ofUInt32 version := by
  -- Only the key is not spoken of, and any key will do.
  constructor
  · rintro ⟨message, decoded, rfl⟩
    obtain ⟨length, opening, second, _⟩ := eq_encode_iff.mp (eq_encode_of_decode decoded)
    exact ⟨length, opening, second⟩
  · rintro ⟨length, opening, second⟩
    -- Whatever stands behind the version has the length of a key, so it is one.
    have key : (packet.drop 8).length = keySize := by rw [List.length_drop, length]
    have whole : packet = encode ⟨version, ⟨packet.drop 8, key⟩⟩ :=
      eq_encode_iff.mpr ⟨length, opening, second, rfl⟩
    exact ⟨_, (congrArg decode whole).trans (decode_encode _), rfl⟩

end KeyExchange

namespace Envelope

/-- Every envelope packet is a hundred and eighty bytes long. -/
@[simp] theorem length_encode (envelope : Envelope) : envelope.encode.length = size := by
  -- The four fields have fixed lengths, which add up to a hundred and eighty.
  simp [encode, size, envelope.nonce.length_toList, envelope.ciphertext.length_toList,
    envelope.tag.length_toList]
  omega

/-- An envelope that was written opens with its kind. -/
@[simp] theorem peek_encode (envelope : Envelope) :
    PacketKind.peek envelope.encode = .ok envelope.kind := by
  -- The kind comes first, and nothing behind it is looked at.
  rw [encode, List.append_assoc, List.append_assoc, PacketKind.peek_append]

/-- An envelope that was written is read back, if its kind is one that envelopes have. -/
theorem decode_encode (envelope : Envelope) (carries : envelope.kind.isEnvelope) :
    decode envelope.encode = .ok envelope := by
  have four : envelope.kind.toBytes.length = 4 := PacketKind.length_toBytes _
  -- Each field is the stretch behind those in front of it, all of them of a fixed size.
  have nonce (within : 4 + nonceSize ≤ envelope.encode.length) :
      FixedBytes.slice envelope.encode 4 nonceSize within = envelope.nonce := by
    have whole : envelope.encode = envelope.kind.toBytes ++ envelope.nonce.toList ++
        (envelope.ciphertext.toList ++ envelope.tag.toList) := by simp [encode]
    simp only [whole]
    exact FixedBytes.slice_middle _ _ _ four _
  have ciphertext (within : 28 + RegisterFile.size ≤ envelope.encode.length) :
      FixedBytes.slice envelope.encode 28 RegisterFile.size within = envelope.ciphertext := by
    exact FixedBytes.slice_middle _ _ _ (by simp [four, envelope.nonce.length_toList, nonceSize]) _
  have tag (within : 164 + tagSize ≤ envelope.encode.length) :
      FixedBytes.slice envelope.encode 164 tagSize within = envelope.tag := by
    have whole : envelope.encode = envelope.kind.toBytes ++ envelope.nonce.toList ++
        envelope.ciphertext.toList ++ envelope.tag.toList ++ [] := by simp [encode]
    simp only [whole]
    exact FixedBytes.slice_middle _ _ _
      (by simp [four, envelope.nonce.length_toList, envelope.ciphertext.length_toList,
        nonceSize, RegisterFile.size]) _
  simp only [decode, length_encode, dif_pos, peek_encode, carries, if_true, nonce, ciphertext, tag]

/-- Only packets that an envelope of a fitting kind is written as are read as one. -/
theorem eq_encode_of_decode {packet : Bytes} {envelope : Envelope}
    (decoded : decode packet = .ok envelope) :
    packet = envelope.encode ∧ envelope.kind.isEnvelope := by
  unfold decode at decoded
  -- Only a packet of the right length and a kind that envelopes have is read at all.
  split at decoded
  · rename_i exact
    have length : packet.length = 180 := exact
    cases peeked : PacketKind.peek packet with
    | error error => simp [peeked] at decoded
    | ok kind =>
      simp only [peeked] at decoded
      split at decoded
      · rename_i carries
        simp only [Except.ok.injEq] at decoded
        have opening : packet.take 4 = kind.toBytes := PacketKind.peek_eq_ok_iff.mp peeked
        subst decoded
        refine ⟨?_, carries⟩
        -- The fields are the stretches the packet is cut into, one behind the other.
        have nonce : packet.take 4 ++ (packet.drop 4).take nonceSize = packet.take 28 :=
          List.take_add.symm
        have ciphertext : packet.take 28 ++ (packet.drop 28).take RegisterFile.size =
            packet.take 164 := List.take_add.symm
        have tag : packet.take 164 ++ (packet.drop 164).take tagSize = packet.take 180 :=
          List.take_add.symm
        simp only [encode, FixedBytes.slice, ← opening, nonce, ciphertext, tag]
        exact (List.take_of_length_le (Nat.le_of_eq length)).symm
      · cases decoded
  · cases decoded

/-- A packet opens to an envelope exactly when it is what the envelope is written as. -/
theorem decode_eq_ok_iff {packet : Bytes} {envelope : Envelope} :
    decode packet = .ok envelope ↔ packet = envelope.encode ∧ envelope.kind.isEnvelope := by
  -- Reading and writing lead back to each other for the kinds that are carried.
  constructor
  · exact eq_encode_of_decode
  · rintro ⟨rfl, carries⟩
    exact decode_encode envelope carries

/-- The fields of an envelope lie at fixed places of its packet. -/
theorem eq_encode_iff {packet : Bytes} {envelope : Envelope} :
    packet = envelope.encode ↔ packet.length = 180 ∧ packet.take 4 = envelope.kind.toBytes ∧
      (packet.drop 4).take 24 = envelope.nonce.toList ∧
      (packet.drop 28).take 136 = envelope.ciphertext.toList ∧
      packet.drop 164 = envelope.tag.toList := by
  have kind : envelope.kind.toBytes.length = 4 := PacketKind.length_toBytes _
  have nonce : envelope.nonce.toList.length = 24 := envelope.nonce.length_toList
  have ciphertext : envelope.ciphertext.toList.length = 136 := envelope.ciphertext.length_toList
  -- Writing puts the fields at their places, and cutting there finds them.
  constructor
  · rintro rfl
    -- What lies before a field is skipped as a whole.
    have skipKind {count : Nat} (more : 4 ≤ count) : envelope.kind.toBytes.drop count = [] :=
      List.drop_eq_nil_of_le (by omega)
    have skipNonce : envelope.nonce.toList.drop 160 = [] := List.drop_eq_nil_of_le (by omega)
    refine ⟨length_encode envelope, ?_, ?_, ?_, ?_⟩
    · simp [encode, kind]
    · simp [encode, kind, nonce]
    · simp [encode, List.drop_append, kind, nonce, ciphertext, skipKind]
    · simp [encode, List.drop_append, kind, nonce, ciphertext, skipKind, skipNonce]
  · rintro ⟨length, first, second, third, last⟩
    -- The four stretches are cut from the packet one behind the other, and nothing is left over.
    have early : packet.take 4 ++ (packet.drop 4).take 24 = packet.take 28 := List.take_add.symm
    have middle : packet.take 28 ++ (packet.drop 28).take 136 = packet.take 164 :=
      List.take_add.symm
    rw [encode, ← first, ← second, ← third, ← last, early, middle, List.take_append_drop]

/-- A hundred and eighty bytes that open with a kind of envelope are read as one of that kind. -/
theorem exists_decode_iff {packet : Bytes} {kind : PacketKind} (carries : kind.isEnvelope) :
    (∃ envelope, decode packet = .ok envelope ∧ envelope.kind = kind) ↔
      packet.length = 180 ∧ packet.take 4 = kind.toBytes := by
  -- Only the length and the kind are spoken of, and the other fields may hold anything.
  constructor
  · rintro ⟨envelope, decoded, rfl⟩
    obtain ⟨length, opening, _⟩ := eq_encode_iff.mp (eq_encode_of_decode decoded).1
    exact ⟨length, opening⟩
  · rintro ⟨length, opening⟩
    -- The length and the kind are all that is judged, so every such packet is taken apart.
    have exact : packet.length = size := length
    have peeked : PacketKind.peek packet = .ok kind := PacketKind.peek_eq_ok_iff.mpr opening
    simp only [decode, exact, dif_pos, peeked, carries, if_true]
    exact ⟨_, rfl, rfl⟩

end Envelope

end CallGate
