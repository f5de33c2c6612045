import CallGate.Crypto.Curve25519
import CallGate.Crypto.Material
import CallGate.Crypto.XChaCha20Poly1305

/-! The cryptographic primitives a server is given, a counting wrapper, and the standard ones. -/

namespace CallGate

/-- Why a primitive refused. -/
inductive CryptoError where
  /-- The tag does not belong to the ciphertext. -/
  | authentication
  /-- The text could not be encrypted. -/
  | encryption
  deriving DecidableEq, Repr

/-- What is reported for a refusal. -/
def CryptoError.message : CryptoError → String
  | authentication => "Authentication tag verification failed"
  | encryption => "Encryption failed"

/-- The primitives everything else is built on.

Each call but one may change a state `σ` of the primitives, such as a source of randomness. -/
structure Primitives (σ : Type) where
  /-- The public key of a secret. -/
  publicKey : SecretKey → PublicKey
  /-- The secret shared between one's own key and a peer's. -/
  agree : SecretKey → PublicKey → σ → FixedBytes keySize × σ
  /-- The digest of a byte string. -/
  digest : Bytes → σ → FixedBytes keySize × σ
  /-- Bytes nobody can predict. -/
  random : (size : Nat) → σ → FixedBytes size × σ
  /-- Encrypts a text under a key and a nonce, and binds the associated data to it. -/
  encrypt : {size : Nat} → SessionKey → Nonce → (associated : Bytes) → FixedBytes size → σ →
    Except CryptoError (FixedBytes size × Tag) × σ
  /-- Decrypts a ciphertext whose tag is right. -/
  decrypt : {size : Nat} → SessionKey → Nonce → (associated : Bytes) → FixedBytes size → Tag → σ →
    Except CryptoError (FixedBytes size) × σ

/-- How often each primitive was called. -/
structure Tally where
  agreements : Nat := 0
  digests : Nat := 0
  randoms : Nat := 0
  encryptions : Nat := 0
  decryptions : Nat := 0
  deriving DecidableEq, Repr, Inhabited

/-- Calls of any primitive. -/
def Tally.total (tally : Tally) : Nat :=
  tally.agreements + tally.digests + tally.randoms + tally.encryptions + tally.decryptions

namespace Primitives

variable {σ : Type}

/-- The same primitives, counting every call next to their own state.

Deriving a public key is part of preparing a key pair and is not counted. A refusal is. -/
def counted (crypto : Primitives σ) : Primitives (σ × Tally) where
  publicKey := crypto.publicKey
  agree secret peer state :=
    let (shared, inner) := crypto.agree secret peer state.1
    (shared, inner, { state.2 with agreements := state.2.agreements + 1 })
  digest message state :=
    let (digest, inner) := crypto.digest message state.1
    (digest, inner, { state.2 with digests := state.2.digests + 1 })
  random size state :=
    let (bytes, inner) := crypto.random size state.1
    (bytes, inner, { state.2 with randoms := state.2.randoms + 1 })
  encrypt key nonce associated text state :=
    let (outcome, inner) := crypto.encrypt key nonce associated text state.1
    (outcome, inner, { state.2 with encryptions := state.2.encryptions + 1 })
  decrypt key nonce associated ciphertext tag state :=
    let (outcome, inner) := crypto.decrypt key nonce associated ciphertext tag state.1
    (outcome, inner, { state.2 with decryptions := state.2.decryptions + 1 })

/-- The same primitives, except that nothing can be encrypted. -/
def refusing (crypto : Primitives σ) : Primitives σ :=
  { crypto with encrypt := fun _ _ _ _ state => (.error .encryption, state) }

end Primitives

/-- A supply of random bytes that is read in order and starts over at its end. -/
structure Entropy where
  /-- The supply. An empty one yields zeros. -/
  pool : Array UInt8
  /-- How many bytes have been read so far. -/
  used : Nat := 0
  deriving Inhabited

namespace Entropy

/-- The byte at a place of the endless repetition of the supply. -/
def byte (entropy : Entropy) (place : Nat) : UInt8 :=
  entropy.pool.getD (place % entropy.pool.size) 0

/-- The next bytes of the supply. -/
def take (size : Nat) (entropy : Entropy) : FixedBytes size × Entropy :=
  (⟨(List.range size).map fun place => entropy.byte (entropy.used + place), by simp⟩,
    { entropy with used := entropy.used + size })

/-- A supply of so many digests, of a seed with a count behind it. -/
def ofSeed (seed : Bytes) (blocks : Nat) : Entropy where
  pool := ((List.range blocks).flatMap fun block =>
    (Blake2b.hash (seed ++ Bytes.littleEndian 8 block)).toList).toArray

end Entropy

/-- Curve25519, BLAKE2b and XChaCha20-Poly1305 over a supply of random bytes. -/
def Primitives.standard : Primitives Entropy where
  publicKey secret := ⟨Curve25519.publicKey secret.bytes⟩
  agree secret peer state := (Curve25519.agree secret.bytes peer.bytes, state)
  digest message state := (Blake2b.hash message, state)
  random size state := state.take size
  encrypt key nonce associated text state :=
    (.ok (XChaCha20Poly1305.encrypt key.bytes nonce associated text), state)
  decrypt key nonce associated ciphertext tag state :=
    match XChaCha20Poly1305.decrypt key.bytes nonce associated ciphertext tag with
    | some text => (.ok text, state)
    | none => (.error .authentication, state)

end CallGate
