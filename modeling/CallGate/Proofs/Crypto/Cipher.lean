import CallGate.Proofs.Channel
import CallGate.Proofs.Crypto.Blake2b
import CallGate.Proofs.Crypto.ChaCha20
import CallGate.Proofs.Crypto.Curve25519
import CallGate.Proofs.Crypto.Poly1305

/-! The standard cipher decrypts what it encrypted, and nothing else. -/

namespace CallGate

namespace XChaCha20Poly1305

/-- A ciphertext is decrypted under its own tag, key, nonce and associated data. -/
theorem decrypt_encrypt {size : Nat} (key : FixedBytes 32) (nonce : FixedBytes 24)
    (associated : Bytes) (text : FixedBytes size) :
    decrypt key nonce associated (encrypt key nonce associated text).1
      (encrypt key nonce associated text).2 = some text := by
  -- The tag covers the ciphertext, which is the same on both ways, so the comparison succeeds.
  simp only [decrypt, encrypt, if_true, ChaCha20.apply_apply]

/-- The first letters of the known ciphertext. -/
example : (encrypt ⟨(List.range 32).map fun place => UInt8.ofNat (128 + place), by decide⟩
      ⟨(List.range 24).map fun place => UInt8.ofNat (64 + place), by decide⟩
      [0x50, 0x51, 0x52, 0x53, 0xc0, 0xc1, 0xc2, 0xc3, 0xc4, 0xc5, 0xc6, 0xc7]
      (⟨[0x4c, 0x61, 0x64, 0x69], rfl⟩ : FixedBytes 4)).1.toHex = "bd6d179d" := by
  decide +kernel

/-- A text is decrypted from nothing but its own encryption. -/
theorem decrypt_eq_some_iff {size : Nat} {key : FixedBytes 32} {nonce : FixedBytes 24}
    {associated : Bytes} {ciphertext text : FixedBytes size} {tag : FixedBytes 16} :
    decrypt key nonce associated ciphertext tag = some text ↔
      encrypt key nonce associated text = (ciphertext, tag) := by
  constructor
  · intro decrypted
    simp only [decrypt] at decrypted
    -- Only under the right tag is there a text, and the same keystream leads back from it.
    split at decrypted
    · rename_i right
      rw [← Option.some.inj decrypted]
      simp only [encrypt, ChaCha20.apply_apply, right]
    · cases decrypted
  · intro encrypted
    have back := decrypt_encrypt key nonce associated text
    rwa [encrypted] at back

end XChaCha20Poly1305

/-- The standard primitives encrypt every text and take it back. -/
theorem Primitives.standard_inverting : standard.Inverting where
  -- Encrypting never fails.
  encrypts _ _ _ _ _ := ⟨_, _, _, rfl⟩
  decrypts := by
    intro size key nonce associated text ciphertext tag state next encrypted later
    -- What was encrypted is the block the cipher made, whatever the supply of random bytes was.
    have block : XChaCha20Poly1305.encrypt key.bytes nonce associated text = (ciphertext, tag) :=
      Except.ok.inj (Prod.mk.inj encrypted).1
    have back := XChaCha20Poly1305.decrypt_encrypt key.bytes nonce associated text
    rw [block] at back
    simp only [standard, back]

/-- The standard primitives decrypt exactly what they encrypt. -/
theorem Primitives.standard_ideal : standard.Ideal where
  decrypts_iff key nonce associated text ciphertext tag one other := by
    -- Both primitives are the cipher's, and leave the supply of random bytes aside.
    simp only [standard, Except.ok.injEq, ← XChaCha20Poly1305.decrypt_eq_some_iff]
    cases XChaCha20Poly1305.decrypt key.bytes nonce associated ciphertext tag <;> simp
  refuses {size key nonce associated ciphertext tag state error} refused := by
    simp only [standard] at refused
    -- There is one way to be refused, and that is by the tag.
    cases decrypted : XChaCha20Poly1305.decrypt key.bytes nonce associated ciphertext tag with
    | some text => simp [decrypted] at refused
    | none =>
      simp only [decrypted, Except.error.injEq] at refused
      exact refused.symm

/-- The keys of two secrets agree on one shared secret. -/
theorem Curve25519.agree_publicKey_replicate :
    agree (.replicate 32 1) (publicKey (.replicate 32 2)) =
      agree (.replicate 32 2) (publicKey (.replicate 32 1)) := by
  decide +kernel

/-- The standard key agreement comes to the same from either side, here for two secrets. -/
theorem Primitives.standard_agreeing :
    standard.Agreeing ⟨.replicate 32 1⟩ ⟨.replicate 32 2⟩ where
  symmetric _ _ := by
    -- The secrets are fixed, so both sides are closed terms.
    simp only [standard]
    exact Curve25519.agree_publicKey_replicate
  digested _ _ _ := rfl

end CallGate
