import CallGate.Channel
import CallGate.Proofs.Packet.Layout
import CallGate.Proofs.Register

/-! The two ends of a connection: they derive one session, and each opens what the other seals. -/

namespace CallGate

namespace Primitives

variable {σ : Type}

/-- The key agreement of two secrets comes to the same from either side, and digests depend on
nothing but the message. -/
structure Agreeing (crypto : Primitives σ) (server client : SecretKey) : Prop where
  symmetric (one other : σ) :
    (crypto.agree server (crypto.publicKey client) one).1 =
      (crypto.agree client (crypto.publicKey server) other).1
  digested (message : Bytes) (one other : σ) :
    (crypto.digest message one).1 = (crypto.digest message other).1

/-- Encryption always succeeds, and decryption takes it back. -/
structure Inverting (crypto : Primitives σ) : Prop where
  encrypts {size : Nat} (key : SessionKey) (nonce : Nonce) (associated : Bytes)
    (text : FixedBytes size) (state : σ) :
    ∃ ciphertext tag next,
      crypto.encrypt key nonce associated text state = (.ok (ciphertext, tag), next)
  decrypts {size : Nat} {key : SessionKey} {nonce : Nonce} {associated : Bytes}
    {text ciphertext : FixedBytes size} {tag : Tag} {state next : σ}
    (encrypted : crypto.encrypt key nonce associated text state = (.ok (ciphertext, tag), next))
    (later : σ) :
    (crypto.decrypt key nonce associated ciphertext tag later).1 = .ok text

/-- Decryption gives a text exactly when encrypting the text makes what was decrypted, and refuses
everything else as not authentic. What other calls came before does not matter. -/
structure Ideal (crypto : Primitives σ) : Prop where
  decrypts_iff {size : Nat} (key : SessionKey) (nonce : Nonce) (associated : Bytes)
    (text ciphertext : FixedBytes size) (tag : Tag) (one other : σ) :
    (crypto.decrypt key nonce associated ciphertext tag one).1 = .ok text ↔
      (crypto.encrypt key nonce associated text other).1 = .ok (ciphertext, tag)
  refuses {size : Nat} {key : SessionKey} {nonce : Nonce} {associated : Bytes}
    {ciphertext : FixedBytes size} {tag : Tag} {state : σ} {error : CryptoError}
    (refused : (crypto.decrypt key nonce associated ciphertext tag state).1 = .error error) :
    error = .authentication

end Primitives

namespace Handshake

variable {σ : Type}

/-- Both ends derive the same session, each from the other's message. -/
theorem complete_eq_join {crypto : Primitives σ} {server client : SecretKey}
    (agreeing : crypto.Agreeing server client) (one other : σ) :
    (complete crypto (.ofSecret crypto server) (hello (.ofSecret crypto client)) one).1 =
      (join crypto (.ofSecret crypto client) (hello (.ofSecret crypto server)) other).1 := by
  simp only [complete, join, hello, checkVersion, if_true, sessionKey, KeyPair.ofSecret]
  -- The shared secret is the same, and both ends put the server's key in front of the client's.
  rw [agreeing.symmetric one (other),
    agreeing.digested _ _ (crypto.agree client (crypto.publicKey server) other).2]

/-- Joining a server of one's own version always gives a session. -/
theorem exists_join (crypto : Primitives σ) (client : KeyPair) (server : KeyPair) (state : σ) :
    ∃ session, (join crypto client (hello server) state).1 = .ok session := by
  -- Both greetings have the one version there is.
  simp [join, hello, checkVersion]

end Handshake

namespace Channel

variable {σ : Type}

/-- A packet that is no envelope reaches no primitive. -/
theorem unwrap_of_malformed {crypto : Primitives σ} {session : Session} {packet : Bytes}
    {error : PacketError} {state : σ} (malformed : Envelope.decode packet = .error error) :
    unwrap crypto session packet state = (.error (.malformed error), state) := by
  -- The packet is decoded before anything else is done.
  simp [unwrap, malformed]

/-- An envelope whose decryption is refused is not opened. -/
theorem unwrap_of_refused {crypto : Primitives σ} {session : Session} {packet : Bytes}
    {envelope : Envelope} {error : CryptoError} {state next : σ}
    (decoded : Envelope.decode packet = .ok envelope)
    (refused : crypto.decrypt session.key envelope.nonce envelope.associatedData
      envelope.ciphertext envelope.tag state = (.error error, next)) :
    unwrap crypto session packet state = (.error (.ofCrypto error), next) := by
  -- The outcome of the decryption is the outcome of opening.
  simp [unwrap, unwrapEnvelope, decoded, refused]

/-- An envelope that is decrypted yields the register file it holds. -/
theorem unwrap_of_opened {crypto : Primitives σ} {session : Session} {packet : Bytes}
    {envelope : Envelope} {text : FixedBytes RegisterFile.size} {state next : σ}
    (decoded : Envelope.decode packet = .ok envelope)
    (opened : crypto.decrypt session.key envelope.nonce envelope.associatedData
      envelope.ciphertext envelope.tag state = (.ok text, next)) :
    unwrap crypto session packet state = (.ok (envelope.kind, .ofBytes text), next) := by
  -- The text that was decrypted is all that the register file is made from.
  simp [unwrap, unwrapEnvelope, decoded, opened]

/-- What sealing makes is the encryption of the register file, bound to the kind it is for. -/
theorem encrypt_of_wrap {crypto : Primitives σ} {session : Session} {kind : PacketKind}
    {file : RegisterFile} {state next : σ} {envelope : Envelope}
    (wrapped : wrap crypto session kind file state = (.ok envelope, next)) :
    envelope.kind = kind ∧ ∃ drawing, crypto.encrypt session.key envelope.nonce kind.toBytes
      file.toBytes drawing = (.ok (envelope.ciphertext, envelope.tag), next) := by
  cases drawn : crypto.random nonceSize state with
  | mk nonce drawing =>
    -- Only an encryption that succeeds yields an envelope.
    cases encrypted : crypto.encrypt session.key nonce kind.toBytes file.toBytes drawing with
    | mk outcome last =>
      cases outcome with
      | error error => simp [wrap, drawn, encrypted] at wrapped
      | ok block =>
        simp only [wrap, drawn, encrypted, Prod.mk.injEq, Except.ok.injEq] at wrapped
        obtain ⟨rfl, rfl⟩ := wrapped
        exact ⟨rfl, drawing, encrypted⟩

/-- Whatever can be encrypted can be sealed. -/
theorem exists_wrap {crypto : Primitives σ} (inverting : crypto.Inverting) (session : Session)
    (kind : PacketKind) (file : RegisterFile) (state : σ) :
    ∃ envelope next, wrap crypto session kind file state = (.ok envelope, next) := by
  cases drawn : crypto.random nonceSize state with
  | mk nonce drawing =>
    -- Drawing a nonce cannot fail, so encrypting is the only thing that could.
    obtain ⟨ciphertext, tag, next, encrypted⟩ :=
      inverting.encrypts session.key nonce kind.toBytes file.toBytes drawing
    exact ⟨⟨kind, nonce, ciphertext, tag⟩, next, by simp only [wrap, drawn, encrypted]⟩

/-- An envelope travels as a packet, and whoever decrypts it opens the packet. -/
theorem unwrap_encode {crypto : Primitives σ} {session : Session} {envelope : Envelope}
    {text : FixedBytes RegisterFile.size} {later : σ} (carries : envelope.kind.isEnvelope)
    (opened : (crypto.decrypt session.key envelope.nonce envelope.associatedData
      envelope.ciphertext envelope.tag later).1 = .ok text) :
    ∃ last, unwrap crypto session envelope.encode later =
      (.ok (envelope.kind, .ofBytes text), last) := by
  -- The packet is decoded to the envelope it was encoded from.
  have decoded : Envelope.decode envelope.encode = .ok envelope :=
    Envelope.decode_encode envelope carries
  cases decrypted : crypto.decrypt session.key envelope.nonce envelope.associatedData
      envelope.ciphertext envelope.tag later with
  | mk outcome last =>
    rw [decrypted] at opened
    subst opened
    exact ⟨last, unwrap_of_opened decoded decrypted⟩

/-- What one end seals the other end opens, to the same kind and register file. -/
theorem unwrap_wrap {crypto : Primitives σ} (inverting : crypto.Inverting) {session : Session}
    {kind : PacketKind} (carries : kind.isEnvelope) {file : RegisterFile} {state next : σ}
    {envelope : Envelope} (wrapped : wrap crypto session kind file state = (.ok envelope, next))
    (later : σ) :
    ∃ last, unwrap crypto session envelope.encode later = (.ok (kind, file), last) := by
  -- The envelope holds an encryption bound to its kind, under the session's key and its own nonce.
  obtain ⟨rfl, drawing, encrypted⟩ := encrypt_of_wrap wrapped
  have opened := unwrap_encode carries (inverting.decrypts encrypted later)
  rwa [RegisterFile.ofBytes_toBytes] at opened

end Channel

end CallGate
