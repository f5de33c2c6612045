import CallGate.Proofs.Crypto.Cipher
import Mathlib.Data.Fintype.Card
import Mathlib.Data.Set.Insert

/-! Both ends of a handshake derive one key, and what they derive it from shows in it. -/

namespace CallGate

namespace KeyPair

variable {σ : Type}

/-- The ways to a key pair: from a given secret, from a random one, and from files. -/
inductive Built (crypto : Primitives σ) : KeyPair → Prop
  | ofSecret (secret : SecretKey) : Built crypto (.ofSecret crypto secret)
  | generate (state : σ) : Built crypto (generate crypto state).1
  | load {read : ReadFile} {publicPath privatePath : String} {pair : KeyPair}
    (loaded : load crypto read publicPath privatePath = .ok pair) : Built crypto pair

/-- However a key pair is built, its public key belongs to its secret. -/
theorem Built.publicKey_eq {crypto : Primitives σ} {pair : KeyPair} (built : Built crypto pair) :
    pair.publicKey = crypto.publicKey pair.secretKey := by
  -- A pair is made from its secret, whether the secret was given or drawn, or it was checked.
  cases built with
  | ofSecret secret => rfl
  | generate state => rfl
  | @load read publicPath privatePath _ loaded =>
    simp only [KeyPair.load] at loaded
    -- A pair is only handed out once its public key has been compared.
    cases publicRead : readKey read publicPath with
    | error error => simp [publicRead] at loaded
    | ok publicBytes =>
      cases privateRead : readKey read privatePath with
      | error error => simp [publicRead, privateRead] at loaded
      | ok secretBytes =>
        simp only [publicRead, privateRead] at loaded
        split at loaded
        · cases loaded
          rfl
        · cases loaded

end KeyPair

/-- No two of these byte strings have the same digest, and digests depend on nothing else. -/
def Primitives.Separates {σ : Type} (crypto : Primitives σ) (messages : Set Bytes) : Prop :=
  ∀ message ∈ messages, ∀ other ∈ messages, ∀ one two : σ,
    (crypto.digest message one).1 = (crypto.digest other two).1 ↔ message = other

/-- There are more messages of the length of a transcript than digests, so none separates them all.
What can be asked for is that those that occur are separated. -/
theorem Primitives.not_separates_all {σ : Type} (crypto : Primitives σ) (state : σ) :
    ¬ crypto.Separates { message | message.length = 96 } := by
  -- The digests are counted against the messages: there are at least as many more messages.
  intro separates
  let digest (number : Nat) : FixedBytes keySize :=
    (crypto.digest (Bytes.littleEndian 96 number) state).1
  let numbered (number : Fin (256 ^ 32 + 1)) : Fin (256 ^ 32) :=
    ⟨Bytes.value (digest number).toList, by
      have bound := Bytes.value_lt (digest number).toList
      rwa [(digest number).length_toList] at bound⟩
  -- If all messages were separated, the number of the digest would tell the message.
  have injective : Function.Injective numbered := by
    intro one other same
    -- Digests with the same number are the same, and then so are the messages.
    have digests : digest one = digest other := by
      apply FixedBytes.ext
      have back (number : Nat) : Bytes.littleEndian 32 (Bytes.value (digest number).toList) =
          (digest number).toList := by
        have whole := Bytes.littleEndian_value (digest number).toList
        rwa [(digest number).length_toList] at whole
      have values : Bytes.value (digest one).toList = Bytes.value (digest other).toList :=
        congrArg Fin.val same
      rw [← back one, ← back other, values]
    have messages := (separates _ (by simp) _ (by simp) state state).mp digests
    have values := congrArg Bytes.value messages
    have small (number : Fin (256 ^ 32 + 1)) : number.val < 256 ^ 96 :=
      Nat.lt_of_lt_of_le number.isLt (by decide)
    rw [Bytes.value_littleEndian, Bytes.value_littleEndian, Nat.mod_eq_of_lt (small one),
      Nat.mod_eq_of_lt (small other)] at values
    exact Fin.ext values
  -- So there would be at most as many messages as digests, and there is one more already.
  have cards := Fintype.card_le_of_injective numbered injective
  rw [Fintype.card_fin, Fintype.card_fin] at cards
  exact Nat.not_succ_le_self _ cards

namespace Handshake

variable {σ : Type} {crypto : Primitives σ}

/-- What a session key is the digest of. -/
def transcript (shared : FixedBytes keySize) (server client : PublicKey) : Bytes :=
  shared.toList ++ server.bytes.toList ++ client.bytes.toList

/-- A transcript is three keys long. -/
@[simp] theorem length_transcript (shared : FixedBytes keySize) (server client : PublicKey) :
    (transcript shared server client).length = 96 := by
  -- Each of the three keys has its fixed length.
  simp [transcript, FixedBytes.length_toList, keySize]

/-- Every part of a transcript has its own place in it, so the transcript tells what they are. -/
theorem transcript_inj {shared shared' : FixedBytes keySize}
    {server client server' client' : PublicKey} :
    transcript shared server client = transcript shared' server' client' ↔
      shared = shared' ∧ server = server' ∧ client = client' := by
  constructor
  -- Going back from the end, each key is the last of what is left.
  · intro same
    have lengths (one other : FixedBytes keySize) : one.toList.length = other.toList.length := by
      rw [one.length_toList, other.length_toList]
    obtain ⟨front, clients⟩ := List.append_inj' same (lengths _ _)
    obtain ⟨secrets, servers⟩ := List.append_inj front (lengths _ _)
    refine ⟨FixedBytes.ext secrets, ?_, ?_⟩
    · cases server
      cases server'
      exact congrArg PublicKey.mk (FixedBytes.ext servers)
    · cases client
      cases client'
      exact congrArg PublicKey.mk (FixedBytes.ext clients)
  · rintro ⟨rfl, rfl, rfl⟩
    rfl

/-- A session key is the digest of its transcript. -/
theorem sessionKey_eq (shared : FixedBytes keySize) (server client : PublicKey) (state : σ) :
    (sessionKey crypto shared server client state).1 =
      ⟨(crypto.digest (transcript shared server client) state).1⟩ := rfl

/-- Where digests separate transcripts, session keys are the same exactly when all they are derived
from is. -/
theorem sessionKey_eq_iff {transcripts : Set Bytes} (separates : crypto.Separates transcripts)
    {shared shared' : FixedBytes keySize} {server client server' client' : PublicKey}
    (occurs : transcript shared server client ∈ transcripts)
    (occurs' : transcript shared' server' client' ∈ transcripts) (one two : σ) :
    (sessionKey crypto shared server client one).1 =
        (sessionKey crypto shared' server' client' two).1 ↔
      shared = shared' ∧ server = server' ∧ client = client' := by
  -- The keys are the digests, the digests tell the transcripts, and these tell their parts.
  rw [sessionKey_eq, sessionKey_eq, SessionKey.mk.injEq, separates _ occurs _ occurs',
    transcript_inj]

/-- Both ends come to one session, whose key is the digest of the shared secret, the server's public
key and the client's. -/
structure Agreed (crypto : Primitives σ) (server client : KeyPair) (shared : FixedBytes keySize) :
    Prop where
  /-- The server's secret and the client's public key give the shared secret. -/
  serverShares (state : σ) : (crypto.agree server.secretKey client.publicKey state).1 = shared
  /-- So do the client's secret and the server's public key. -/
  clientShares (state : σ) : (crypto.agree client.secretKey server.publicKey state).1 = shared
  /-- The server's half gives the digest. -/
  completed (one state : σ) : (complete crypto server (hello client) one).1 =
    .ok ⟨⟨(crypto.digest (transcript shared server.publicKey client.publicKey) state).1⟩⟩
  /-- The client's half gives it too. -/
  joined (one state : σ) : (join crypto client (hello server) one).1 =
    .ok ⟨⟨(crypto.digest (transcript shared server.publicKey client.publicKey) state).1⟩⟩

/-- Key pairs that agree on a secret agree on the session. -/
theorem agreed_of_built {server client : KeyPair} (builtServer : server.Built crypto)
    (builtClient : client.Built crypto)
    (agreeing : crypto.Agreeing server.secretKey client.secretKey) (start : σ) :
    Agreed crypto server client (crypto.agree server.secretKey client.publicKey start).1 := by
  -- The shared secret is the same at any time, since either end's is the other's at any other.
  have symmetric (one other : σ) :
      (crypto.agree server.secretKey client.publicKey one).1 =
        (crypto.agree client.secretKey server.publicKey other).1 := by
    rw [builtServer.publicKey_eq, builtClient.publicKey_eq]
    exact agreeing.symmetric one other
  have serverShares (state : σ) : (crypto.agree server.secretKey client.publicKey state).1 =
      (crypto.agree server.secretKey client.publicKey start).1 :=
    (symmetric state state).trans (symmetric start state).symm
  have clientShares (state : σ) : (crypto.agree client.secretKey server.publicKey state).1 =
      (crypto.agree server.secretKey client.publicKey start).1 := (symmetric start state).symm
  -- Both halves digest the same three keys in the same order.
  exact {
    serverShares
    clientShares
    completed := fun one state => by
      simp only [complete, hello, checkVersion, if_true, sessionKey_eq]
      rw [serverShares, agreeing.digested _ _ state]
    joined := fun one state => by
      simp only [join, hello, checkVersion, if_true, sessionKey_eq]
      rw [clientShares, agreeing.digested _ _ state] }

/-- What one half of the handshake makes of the version of a message. -/
structure Versioned {ρ : Type}
    (half : KeyPair → KeyExchange → ρ → Except HandshakeError Session × ρ) : Prop where
  /-- Every version but the first one is refused, and nothing else. -/
  fails_iff (keys : KeyPair) (message : KeyExchange) (state : ρ) :
    (∃ error, (half keys message state).1 = .error error) ↔ message.version ≠ 1
  /-- The refusal names both versions, and then nothing has been computed. -/
  refuses (keys : KeyPair) {message : KeyExchange} (other : message.version ≠ 1) (state : ρ) :
    half keys message state = (.error (.versionMismatch 1 message.version), state)

/-- The server's half looks at the version first. -/
theorem versioned_complete (crypto : Primitives σ) : Versioned (complete crypto) where
  fails_iff keys message state := by
    -- The version is checked before the secret is shared, and nothing else can fail.
    by_cases same : message.version = 1 <;> simp [complete, checkVersion, protocolVersion, same]
  -- Nothing is counted, since the message is turned away before any primitive is called.
  refuses keys message other state := by simp [complete, checkVersion, protocolVersion, other]

/-- The client's half looks at the version first. -/
theorem versioned_join (crypto : Primitives σ) : Versioned (join crypto) where
  fails_iff keys message state := by
    -- The version is checked before the secret is shared, and nothing else can fail.
    by_cases same : message.version = 1 <;> simp [join, checkVersion, protocolVersion, same]
  -- Nothing is counted, since the message is turned away before any primitive is called.
  refuses keys message other state := by simp [join, checkVersion, protocolVersion, other]

/-- For a message of the first version, the server derives a key. -/
theorem complete_of_version (keys : KeyPair) {message : KeyExchange}
    (version : message.version = 1) (state : σ) :
    (complete crypto keys message state).1 =
      .ok ⟨(sessionKey crypto (crypto.agree keys.secretKey message.publicKey state).1
        keys.publicKey message.publicKey
        (crypto.agree keys.secretKey message.publicKey state).2).1⟩ := by
  -- The check passes, so what is left is the derivation.
  simp [complete, checkVersion, protocolVersion, version]

/-- What session keys tell of what they are derived from, where digests separate transcripts. -/
structure Separated (crypto : Primitives σ) (transcripts : Set Bytes) : Prop where
  /-- They are the same exactly when the shared secrets and both public keys are. -/
  keys_eq_iff {shared shared' : FixedBytes keySize} {server client server' client' : PublicKey}
    (occurs : transcript shared server client ∈ transcripts)
    (occurs' : transcript shared' server' client' ∈ transcripts) (one two : σ) :
    (sessionKey crypto shared server client one).1 =
        (sessionKey crypto shared' server' client' two).1 ↔
      shared = shared' ∧ server = server' ∧ client = client'
  /-- Two parties that change their roles come to another key. -/
  roles {shared shared' : FixedBytes keySize} {server client : PublicKey}
    (distinct : server ≠ client) (occurs : transcript shared server client ∈ transcripts)
    (occurs' : transcript shared' client server ∈ transcripts) (one two : σ) :
    (sessionKey crypto shared server client one).1 ≠
      (sessionKey crypto shared' client server two).1
  /-- Two clients of one server come to different sessions. -/
  clients {keys : KeyPair} {message message' : KeyExchange} (version : message.version = 1)
    (version' : message'.version = 1) (distinct : message.publicKey ≠ message'.publicKey)
    (one two : σ)
    (occurs : transcript (crypto.agree keys.secretKey message.publicKey one).1 keys.publicKey
      message.publicKey ∈ transcripts)
    (occurs' : transcript (crypto.agree keys.secretKey message'.publicKey two).1 keys.publicKey
      message'.publicKey ∈ transcripts) :
    (complete crypto keys message one).1 ≠ (complete crypto keys message' two).1

/-- Session keys separate what digests do. -/
theorem separated_of_separates {transcripts : Set Bytes}
    (separates : crypto.Separates transcripts) : Separated crypto transcripts where
  keys_eq_iff occurs occurs' one two := sessionKey_eq_iff separates occurs occurs' one two
  -- A server and a client that changed places would have the same transcript otherwise.
  roles distinct occurs occurs' one two same :=
    distinct ((sessionKey_eq_iff separates occurs occurs' one two).mp same).2.1
  -- Two clients with one key would have one public key.
  clients version version' distinct one two occurs occurs' same := by
    rw [complete_of_version _ version, complete_of_version _ version'] at same
    have keys := congrArg Session.key (Except.ok.inj same)
    exact distinct ((sessionKey_eq_iff separates occurs occurs' _ _).mp keys).2.2

/-- What a handshake comes to. -/
structure Contract (crypto : Primitives σ) : Prop where
  /-- Whatever way their keys were built, two parties whose keys agree come to one session. -/
  agreed {server client : KeyPair} (builtServer : server.Built crypto)
    (builtClient : client.Built crypto)
    (agreeing : crypto.Agreeing server.secretKey client.secretKey) (start : σ) :
    Agreed crypto server client (crypto.agree server.secretKey client.publicKey start).1
  /-- The server's half fails for the version alone, without a call of a primitive. -/
  completes : Versioned (complete crypto.counted)
  /-- So does the client's half. -/
  joins : Versioned (join crypto.counted)
  /-- Keys are as different as what they are derived from, as far as digests are. -/
  separated {transcripts : Set Bytes} (separates : crypto.Separates transcripts) :
    Separated crypto transcripts
  /-- Digests cannot separate all transcripts that could be, only those that occur. -/
  limited (state : σ) : ¬ crypto.Separates { message | message.length = 96 }

/-- Both ends of a handshake derive one key, a message of another version is refused before anything
is computed, and the key separates the two roles and all clients of one server. -/
theorem contract (crypto : Primitives σ) : Contract crypto where
  agreed := agreed_of_built
  completes := versioned_complete crypto.counted
  joins := versioned_join crypto.counted
  separated := separated_of_separates
  limited := crypto.not_separates_all

/-- The transcripts of two clients whose keys differ in the last byte, all else being zero. -/
def twoClients : Set Bytes := {.replicate 96 0, .replicate 95 0 ++ [1]}

/-- The standard digest tells the two clients apart. -/
theorem standard_separates : Primitives.standard.Separates twoClients := by
  -- Both digests are computed.
  have different : Blake2b.hash (.replicate 96 0) ≠ Blake2b.hash (.replicate 95 0 ++ [1]) := by
    decide +kernel
  have apart : (.replicate 96 0 : Bytes) ≠ .replicate 95 0 ++ [1] := by decide
  intro message listed other listed' one two
  -- The digest of a message is the same in any state.
  show Blake2b.hash message = Blake2b.hash other ↔ message = other
  rcases listed with rfl | rfl <;> rcases listed' with rfl | rfl
  · exact iff_of_true rfl rfl
  · exact iff_of_false different apart
  · exact iff_of_false different.symm apart.symm
  · exact iff_of_true rfl rfl

/-- A server with a given secret and a client with one of twos: they agree, a message of the second
version is refused, and two clients whose keys differ in the last byte have different keys. -/
theorem contract_of_two_keys :
    let server : KeyPair := .ofSecret .standard ⟨.replicate 32 1⟩
    let client : KeyPair := (KeyPair.generate .standard ⟨#[2], 0⟩).1
    let last : PublicKey := ⟨⟨.replicate 31 0 ++ [1], rfl⟩⟩
    (server.Built .standard ∧ client.Built .standard ∧
        Primitives.standard.Agreeing server.secretKey client.secretKey ∧
        Agreed .standard server client
          (Primitives.standard.agree server.secretKey client.publicKey default).1) ∧
      join Primitives.standard.counted client ⟨2, server.publicKey⟩ default =
        (.error (.versionMismatch 1 2), default) ∧
      (sessionKey .standard (.replicate 32 0) ⟨.replicate 32 0⟩ ⟨.replicate 32 0⟩ default).1 ≠
        (sessionKey .standard (.replicate 32 0) ⟨.replicate 32 0⟩ last default).1 := by
  -- The agreement and the digests of these keys are computed, and the rest is the theorem's.
  intro server client last
  have holds := contract Primitives.standard
  have builtServer : server.Built .standard := .ofSecret _
  have builtClient : client.Built .standard := .generate _
  have twos : client.secretKey = ⟨.replicate 32 2⟩ := rfl
  have agreeing : Primitives.standard.Agreeing server.secretKey client.secretKey := by
    rw [twos]
    exact Primitives.standard_agreeing
  have first : transcript (.replicate 32 0) ⟨.replicate 32 0⟩ ⟨.replicate 32 0⟩ ∈ twoClients :=
    .inl rfl
  have second : transcript (.replicate 32 0) ⟨.replicate 32 0⟩ last ∈ twoClients := .inr rfl
  have separated := holds.separated standard_separates
  refine ⟨⟨builtServer, builtClient, agreeing, holds.agreed builtServer builtClient agreeing _⟩,
    holds.joins.refuses client (by decide) default, ?_⟩
  intro same
  -- The keys would have to be the same, but one ends in another byte.
  have clients := ((separated.keys_eq_iff first second default default).mp same).2.2
  exact absurd clients (by decide)

end Handshake

end CallGate
