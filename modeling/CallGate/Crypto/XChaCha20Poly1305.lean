import CallGate.Crypto.Mixing
import CallGate.Crypto.Poly1305

/-! Authenticated encryption with XChaCha20 and Poly1305. -/

namespace CallGate.XChaCha20Poly1305

/-- The inner cipher's key and nonce for a key and a 24-byte nonce. -/
def inner (key : FixedBytes 32) (nonce : FixedBytes 24) : FixedBytes 32 × FixedBytes 12 :=
  let head := FixedBytes.slice nonce.toList 0 16 (by simp [nonce.length_toList])
  let tail := FixedBytes.slice nonce.toList 16 8 (by simp [nonce.length_toList])
  -- The last eight bytes of the long nonce fill the short one behind four zeros.
  (ChaCha20.subkey key head, ⟨[0, 0, 0, 0] ++ tail.toList, by simp [tail.length_toList]⟩)

/-- Zeros that fill a byte string up to a multiple of sixteen. -/
def fill (bytes : Bytes) : Bytes := List.replicate ((16 - bytes.length % 16) % 16) 0

/-- What the tag is computed over: associated data, ciphertext and both lengths. -/
def authenticated (associated ciphertext : Bytes) : Bytes :=
  associated ++ fill associated ++ ciphertext ++ fill ciphertext ++
    Bytes.littleEndian 8 associated.length ++ Bytes.littleEndian 8 ciphertext.length

/-- The tag of a ciphertext and its associated data. -/
def authenticate (key : FixedBytes 32) (nonce : FixedBytes 12) (associated ciphertext : Bytes) :
    FixedBytes 16 :=
  -- The first half of keystream block zero is the one-time key.
  let oneTime := ChaCha20.block key nonce 0
  let oneTime := FixedBytes.littleEndian 32 (Bytes.value (oneTime.take 32))
  Poly1305.tag oneTime (authenticated associated ciphertext)

/-- Encrypts a text and authenticates it together with the associated data. -/
def encrypt {size : Nat} (key : FixedBytes 32) (nonce : FixedBytes 24) (associated : Bytes)
    (text : FixedBytes size) : FixedBytes size × FixedBytes 16 :=
  let (key, nonce) := inner key nonce
  let ciphertext := ChaCha20.apply key nonce text
  (ciphertext, authenticate key nonce associated ciphertext.toList)

/-- Decrypts a ciphertext, provided that the tag is the one it was sealed with. -/
def decrypt {size : Nat} (key : FixedBytes 32) (nonce : FixedBytes 24) (associated : Bytes)
    (ciphertext : FixedBytes size) (tag : FixedBytes 16) : Option (FixedBytes size) :=
  let (key, nonce) := inner key nonce
  if authenticate key nonce associated ciphertext.toList = tag then
    some (ChaCha20.apply key nonce ciphertext)
  else none

end CallGate.XChaCha20Poly1305
