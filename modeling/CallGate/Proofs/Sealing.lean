import CallGate.Proofs.Crypto.Cipher

/-! The channel opens exactly what was sealed: every byte of a packet counts. -/

namespace CallGate

namespace PacketKind

/-- Requests and their answers are what envelopes carry. -/
theorem isEnvelope_iff {kind : PacketKind} :
    kind.isEnvelope ↔ kind = execute ∨ kind = stateTransfer := by
  -- There are three kinds, two of which are carried.
  cases kind <;> decide

end PacketKind

namespace Envelope

/-- The shape of an envelope: a hundred and eighty bytes that open with the number of a request or
of an answer. -/
def Shaped (packet : Bytes) : Prop :=
  packet.length = 180 ∧ (packet.take 4 = [1, 0, 0, 0] ∨ packet.take 4 = [2, 0, 0, 0])

/-- Whatever has the shape of an envelope is read as one. -/
theorem shaped_iff {packet : Bytes} : Shaped packet ↔ ∃ envelope, decode packet = .ok envelope := by
  have request : (∃ envelope, decode packet = .ok envelope ∧ envelope.kind = .execute) ↔
      packet.length = 180 ∧ packet.take 4 = [1, 0, 0, 0] := exists_decode_iff rfl
  have answer : (∃ envelope, decode packet = .ok envelope ∧ envelope.kind = .stateTransfer) ↔
      packet.length = 180 ∧ packet.take 4 = [2, 0, 0, 0] := exists_decode_iff rfl
  -- The length is one condition, and the two kinds are the two ways to open.
  constructor
  · rintro ⟨length, opening | opening⟩
    · obtain ⟨envelope, decoded, _⟩ := request.mpr ⟨length, opening⟩
      exact ⟨envelope, decoded⟩
    · obtain ⟨envelope, decoded, _⟩ := answer.mpr ⟨length, opening⟩
      exact ⟨envelope, decoded⟩
  · rintro ⟨envelope, decoded⟩
    -- Only the two kinds that envelopes carry are ever read.
    rcases PacketKind.isEnvelope_iff.mp (eq_encode_of_decode decoded).2 with kind | kind
    · obtain ⟨length, opening⟩ := request.mp ⟨envelope, decoded, kind⟩
      exact ⟨length, .inl opening⟩
    · obtain ⟨length, opening⟩ := answer.mp ⟨envelope, decoded, kind⟩
      exact ⟨length, .inr opening⟩

/-- Whatever lacks the shape of an envelope is refused. -/
theorem not_shaped_iff {packet : Bytes} :
    ¬ Shaped packet ↔ ∃ error, decode packet = .error error := by
  -- A packet is either taken apart or refused.
  rw [shaped_iff]
  cases decode packet <;> simp

/-- A packet of any other length is refused for its length. -/
theorem decode_of_length {packet : Bytes} (length : packet.length ≠ 180) :
    decode packet = .error (.malformed 180 packet.length) := by
  have uneven : packet.length ≠ size := length
  -- The length is looked at before the kind is.
  simp only [decode, uneven, dif_neg, not_false_eq_true]
  rfl

/-- An envelope that was written for a key exchange is refused for its kind. -/
theorem decode_encode_keyExchange {envelope : Envelope} (kind : envelope.kind = .keyExchange) :
    decode envelope.encode = .error (.wrongKind .envelope .keyExchange) := by
  -- The length is right, so it is the kind that is judged.
  simp [decode, kind, PacketKind.isEnvelope]

end Envelope

namespace Channel

variable {σ : Type} {crypto : Primitives σ}

/-- The packet is an envelope of the kind that holds the register file, encrypted under the key and
some nonce and bound to the bytes of the kind. -/
def Seals (crypto : Primitives σ) (key : SessionKey) (kind : PacketKind) (file : RegisterFile)
    (packet : Bytes) : Prop :=
  ∃ nonce ciphertext tag, packet = (Envelope.mk kind nonce ciphertext tag).encode ∧
    ∀ state, (crypto.encrypt key nonce kind.toBytes file.toBytes state).1 = .ok (ciphertext, tag)

/-- A sealing opens with the bytes of its kind. -/
theorem Seals.peek {key : SessionKey} {kind : PacketKind} {file : RegisterFile} {packet : Bytes}
    (sealing : Seals crypto key kind file packet) : PacketKind.peek packet = .ok kind := by
  -- The packet is an envelope, which opens with its kind whatever it holds.
  obtain ⟨nonce, ciphertext, tag, rfl, _⟩ := sealing
  rw [Envelope.peek_encode]

/-- What sealing makes is a sealing, whatever the nonce that was drawn. -/
theorem seals_of_wrap (ideal : crypto.Ideal) {session : Session} {kind : PacketKind}
    {file : RegisterFile} {state next : σ} {envelope : Envelope}
    (wrapped : wrap crypto session kind file state = (.ok envelope, next)) :
    Seals crypto session.key kind file envelope.encode := by
  obtain ⟨rfl, drawing, encrypted⟩ := encrypt_of_wrap wrapped
  refine ⟨envelope.nonce, envelope.ciphertext, envelope.tag, rfl, fun later => ?_⟩
  -- The way through decryption leads from one state of the primitives to any other.
  have decrypted :=
    (ideal.decrypts_iff _ _ _ _ _ _ drawing drawing).mpr (congrArg Prod.fst encrypted)
  exact (ideal.decrypts_iff _ _ _ _ _ _ drawing later).mp decrypted

/-- A packet is opened to a register file exactly when it is a sealing of it. -/
theorem unwrap_eq_ok_iff (ideal : crypto.Ideal) {session : Session} {packet : Bytes}
    {kind : PacketKind} {file : RegisterFile} {state : σ} :
    (unwrap crypto session packet state).1 = .ok (kind, file) ↔
      kind.isEnvelope ∧ Seals crypto session.key kind file packet := by
  -- Reading the packet and decrypting the text both have a way back.
  constructor
  · intro opened
    cases decoded : Envelope.decode packet with
    | error error => simp [unwrap_of_malformed decoded] at opened
    | ok envelope =>
      obtain ⟨whole, carries⟩ := Envelope.eq_encode_of_decode decoded
      cases decrypted : crypto.decrypt session.key envelope.nonce envelope.associatedData
          envelope.ciphertext envelope.tag state with
      | mk outcome next =>
        cases outcome with
        | error error => simp [unwrap_of_refused decoded decrypted] at opened
        | ok text =>
          simp only [unwrap_of_opened decoded decrypted, Except.ok.injEq, Prod.mk.injEq] at opened
          obtain ⟨rfl, rfl⟩ := opened
          -- The text that was decrypted is the register file as it is written.
          refine ⟨carries, envelope.nonce, envelope.ciphertext, envelope.tag, whole,
            fun later => ?_⟩
          rw [RegisterFile.toBytes_ofBytes]
          exact (ideal.decrypts_iff _ _ _ _ _ _ state later).mp (congrArg Prod.fst decrypted)
  -- A sealing is an envelope, and whoever decrypts it gets the text back.
  · rintro ⟨carries, nonce, ciphertext, tag, rfl, encrypted⟩
    have decrypted := (ideal.decrypts_iff _ _ _ _ _ _ state state).mpr (encrypted state)
    obtain ⟨last, opened⟩ : ∃ last,
        unwrap crypto session (Envelope.mk kind nonce ciphertext tag).encode state =
          (.ok (kind, .ofBytes file.toBytes), last) := unwrap_encode carries decrypted
    rw [opened, RegisterFile.ofBytes_toBytes]

/-- A packet is malformed exactly when it lacks the shape of an envelope. -/
theorem unwrap_malformed_iff (ideal : crypto.Ideal) {session : Session} {packet : Bytes}
    {state : σ} :
    (∃ cause, (unwrap crypto session packet state).1 = .error (.malformed cause)) ↔
      ¬ Envelope.Shaped packet := by
  -- The packet has the shape or it has not, and opening looks at that first.
  cases decoded : Envelope.decode packet with
  | error error => simp [unwrap_of_malformed decoded, Envelope.not_shaped_iff, decoded]
  | ok envelope =>
    have shaped : Envelope.Shaped packet := Envelope.shaped_iff.mpr ⟨envelope, decoded⟩
    -- Behind the shape only the tag is judged, and what it refuses is called something else.
    cases decrypted : crypto.decrypt session.key envelope.nonce envelope.associatedData
        envelope.ciphertext envelope.tag state with
    | mk outcome next =>
      cases outcome with
      | error error =>
        obtain rfl := ideal.refuses (congrArg Prod.fst decrypted)
        simp [unwrap_of_refused decoded decrypted, shaped, ChannelError.ofCrypto]
      | ok text => simp [unwrap_of_opened decoded decrypted, shaped]

/-- A packet is refused as not authentic exactly when it has the shape of an envelope but is a
sealing of nothing under the key. -/
theorem unwrap_authentication_iff (ideal : crypto.Ideal) {session : Session} {packet : Bytes}
    {state : σ} :
    (unwrap crypto session packet state).1 = .error .authentication ↔
      Envelope.Shaped packet ∧ ∀ kind file, ¬ Seals crypto session.key kind file packet := by
  -- Without the shape nothing is judged, and with it the tag alone is.
  cases decoded : Envelope.decode packet with
  | error error =>
    have shapeless : ¬ Envelope.Shaped packet := Envelope.not_shaped_iff.mpr ⟨error, decoded⟩
    simp [unwrap_of_malformed decoded, shapeless]
  | ok envelope =>
    have shaped : Envelope.Shaped packet := Envelope.shaped_iff.mpr ⟨envelope, decoded⟩
    cases decrypted : crypto.decrypt session.key envelope.nonce envelope.associatedData
        envelope.ciphertext envelope.tag state with
    | mk outcome next =>
      cases outcome with
      | error error =>
        obtain rfl := ideal.refuses (congrArg Prod.fst decrypted)
        have refused := unwrap_of_refused decoded decrypted
        refine iff_of_true (by rw [refused]; rfl) ⟨shaped, fun kind file sealing => ?_⟩
        -- Were the packet a sealing, its kind would be the envelope's, and it would be opened.
        have peeked := sealing.peek
        obtain ⟨whole, carries⟩ := Envelope.eq_encode_of_decode decoded
        rw [whole, Envelope.peek_encode, Except.ok.injEq] at peeked
        have opened : (unwrap crypto session packet state).1 = .ok (kind, file) :=
          (unwrap_eq_ok_iff ideal).mpr ⟨peeked ▸ carries, sealing⟩
        simp [refused] at opened
      -- What was decrypted is a sealing after all.
      | ok text =>
        have opened := unwrap_of_opened decoded decrypted
        have sealing := (unwrap_eq_ok_iff ideal).mp (congrArg Prod.fst opened)
        refine iff_of_false (by simp [opened]) fun nothing => nothing.2 _ _ sealing.2

/-- Opening calls no primitive for a packet without the shape of an envelope, and one decryption for
a packet with it. -/
theorem unwrap_counted_of_shape (session : Session) (packet : Bytes) (state : σ) (tally : Tally) :
    (¬ Envelope.Shaped packet →
      (unwrap crypto.counted session packet (state, tally)).2 = (state, tally)) ∧
    (Envelope.Shaped packet →
      (unwrap crypto.counted session packet (state, tally)).2.2 =
        { tally with decryptions := tally.decryptions + 1 }) := by
  -- The shape decides whether the decryption is reached.
  rw [Envelope.not_shaped_iff, Envelope.shaped_iff]
  constructor
  · rintro ⟨error, decoded⟩
    rw [unwrap_of_malformed decoded]
  · rintro ⟨envelope, decoded⟩
    -- The decryption is counted whatever comes of it.
    cases decrypted : crypto.decrypt session.key envelope.nonce envelope.associatedData
        envelope.ciphertext envelope.tag state with
    | mk outcome next =>
      cases outcome <;>
        simp [unwrap, unwrapEnvelope, decoded, Primitives.counted, decrypted]

/-- The channel of a session opens exactly what was sealed under its key. -/
structure Exact (crypto : Primitives σ) (session : Session) : Prop where
  /-- A packet is opened exactly when it is a request or an answer that holds the register file. -/
  opened (packet : Bytes) (kind : PacketKind) (file : RegisterFile) (state : σ) :
    (unwrap crypto session packet state).1 = .ok (kind, file) ↔
      (kind = .execute ∨ kind = .stateTransfer) ∧ Seals crypto session.key kind file packet
  /-- What sealing makes is such a packet, up to its kind. -/
  sealing {kind : PacketKind} {file : RegisterFile} {state next : σ} {envelope : Envelope}
    (wrapped : wrap crypto session kind file state = (.ok envelope, next)) :
    Seals crypto session.key kind file envelope.encode
  /-- A packet is malformed exactly when it lacks the shape of an envelope. -/
  malformed (packet : Bytes) (state : σ) :
    (∃ cause, (unwrap crypto session packet state).1 = .error (.malformed cause)) ↔
      ¬ Envelope.Shaped packet
  /-- A malformed packet costs nothing. -/
  costless (packet : Bytes) (state : σ) (tally : Tally) (shapeless : ¬ Envelope.Shaped packet) :
    (unwrap crypto.counted session packet (state, tally)).2 = (state, tally)
  /-- Any other packet costs one decryption. -/
  cost (packet : Bytes) (state : σ) (tally : Tally) (shaped : Envelope.Shaped packet) :
    (unwrap crypto.counted session packet (state, tally)).2.2 =
      { tally with decryptions := tally.decryptions + 1 }
  /-- Any other packet is refused as not authentic, unless it is itself a sealing under the key: no
  matter which of its bytes were changed. -/
  altered (packet : Bytes) (state : σ) :
    (unwrap crypto session packet state).1 = .error .authentication ↔
      Envelope.Shaped packet ∧ ∀ kind file, ¬ Seals crypto session.key kind file packet
  /-- A packet that was cut short or made longer is refused for its length. -/
  resized (packet : Bytes) (state : σ) (length : packet.length ≠ 180) :
    (unwrap crypto session packet state).1 = .error (.malformed (.malformed 180 packet.length))
  /-- A packet sealed under another key is refused, unless it is also a sealing under this one. -/
  foreign (other : SessionKey) (kind : PacketKind) (file : RegisterFile) (packet : Bytes)
    (state : σ) (carries : kind = .execute ∨ kind = .stateTransfer)
    (sealing : Seals crypto other kind file packet)
    (unsealed : ∀ kind file, ¬ Seals crypto session.key kind file packet) :
    (unwrap crypto session packet state).1 = .error .authentication
  /-- A register file that was sealed as a key exchange is never opened. -/
  unopened {file : RegisterFile} {state next : σ} {envelope : Envelope}
    (wrapped : wrap crypto session .keyExchange file state = (.ok envelope, next)) (later : σ) :
    (unwrap crypto session envelope.encode later).1 =
      .error (.malformed (.wrongKind .envelope .keyExchange))

/-- Over primitives that decrypt exactly what they encrypt, every channel is exact. -/
theorem exact_of_ideal {crypto : Primitives σ} (ideal : crypto.Ideal) (session : Session) :
    Exact crypto session where
  opened _ _ _ _ := by rw [unwrap_eq_ok_iff ideal, PacketKind.isEnvelope_iff]
  sealing wrapped := seals_of_wrap ideal wrapped
  malformed _ _ := unwrap_malformed_iff ideal
  costless packet state tally := (unwrap_counted_of_shape session packet state tally).1
  cost packet state tally := (unwrap_counted_of_shape session packet state tally).2
  altered _ _ := unwrap_authentication_iff ideal
  resized _ _ length := by rw [unwrap_of_malformed (Envelope.decode_of_length length)]
  foreign other kind file packet state carries sealing unsealed := by
    -- A sealing is an envelope under any key, so its shape is not what it is refused for.
    obtain ⟨nonce, ciphertext, tag, whole, _⟩ := sealing
    have decoded := Envelope.decode_eq_ok_iff.mpr ⟨whole, PacketKind.isEnvelope_iff.mpr carries⟩
    exact (unwrap_authentication_iff ideal).mpr
      ⟨Envelope.shaped_iff.mpr ⟨_, decoded⟩, unsealed⟩
  unopened wrapped _ := by
    rw [unwrap_of_malformed (Envelope.decode_encode_keyExchange (encrypt_of_wrap wrapped).1)]

/-- The channels of the standard primitives are exact. -/
theorem exact_standard :
    Primitives.standard.Ideal ∧ Exact .standard ⟨⟨.replicate 32 0x5A⟩⟩ ∧
      (unwrap .standard ⟨⟨.replicate 32 0x5A⟩⟩ [1, 0, 0, 0] ⟨#[], 0⟩).1 =
        .error (.malformed (.malformed 180 4)) :=
  have exact : Exact .standard ⟨⟨.replicate 32 0x5A⟩⟩ := exact_of_ideal Primitives.standard_ideal _
  ⟨Primitives.standard_ideal, exact, exact.resized _ _ (by decide)⟩

/-- A request whose tag is right under two keys.

The tag is a polynomial in the blocks of the ciphertext, so two blocks are enough to solve for one
tag under both keys. -/
def ambiguous : Bytes :=
  [1, 0, 0, 0] ++ List.replicate 24 0 ++
    [164, 148, 8, 89, 74, 222, 94, 127, 9, 51, 129, 195, 248, 93, 89, 178,
      63, 12, 38, 90, 179, 55, 226, 93, 12, 47, 200, 216, 29, 158, 145, 251] ++
    List.replicate 120 0

/-- A request that was sealed under one key may be opened under another one, since the tag does not
commit to the key. -/
theorem opened_under_another_key :
    (⟨.replicate 32 1⟩ : SessionKey) ≠ ⟨.replicate 32 2⟩ ∧
      (∃ file, Seals .standard ⟨.replicate 32 1⟩ .execute file ambiguous) ∧
      ∃ file,
        (unwrap .standard ⟨⟨.replicate 32 2⟩⟩ ambiguous ⟨#[], 0⟩).1 = .ok (.execute, file) := by
  -- Whatever the packet opens to, it is a request.
  have request {key : SessionKey} (opened : (unwrap .standard ⟨key⟩ ambiguous ⟨#[], 0⟩).1.isOk) :
      ∃ file, (unwrap .standard ⟨key⟩ ambiguous ⟨#[], 0⟩).1 = .ok (.execute, file) := by
    have peeked : PacketKind.peek ambiguous = .ok .execute := by
      rw [PacketKind.peek_eq_ok_iff]
      decide
    cases outcome : (unwrap .standard ⟨key⟩ ambiguous ⟨#[], 0⟩).1 with
    | error error =>
      rw [outcome] at opened
      cases opened
    | ok pair =>
      obtain ⟨kind, file⟩ := pair
      have sealing := ((unwrap_eq_ok_iff Primitives.standard_ideal).mp outcome).2
      have alike : kind = .execute := Except.ok.inj (sealing.peek.symm.trans peeked)
      exact ⟨file, by rw [alike]⟩
  have first : (unwrap .standard ⟨⟨.replicate 32 1⟩⟩ ambiguous ⟨#[], 0⟩).1.isOk := by
    decide +kernel
  have second : (unwrap .standard ⟨⟨.replicate 32 2⟩⟩ ambiguous ⟨#[], 0⟩).1.isOk := by
    decide +kernel
  -- Both openings are computed, and what opens under a key is a sealing under it.
  obtain ⟨file, opened⟩ := request first
  exact ⟨by decide, ⟨file, ((unwrap_eq_ok_iff Primitives.standard_ideal).mp opened).2⟩,
    request second⟩

end Channel

end CallGate
