import CallGate.Bytes

/-! Keys, nonces and tags. -/

namespace CallGate

/-- The number of bytes in a key of any sort. -/
abbrev keySize : Nat := 32

/-- The number of bytes in a nonce. -/
abbrev nonceSize : Nat := 24

/-- The number of bytes in an authentication tag. -/
abbrev tagSize : Nat := 16

/-- A number used for one encryption only. -/
abbrev Nonce := FixedBytes nonceSize

/-- Evidence that a text was encrypted with the key. -/
abbrev Tag := FixedBytes tagSize

/-- The public half of a key pair. -/
structure PublicKey where
  /-- The key as exchanged. -/
  bytes : FixedBytes keySize
  deriving DecidableEq, Repr, Inhabited

/-- The key as shown to a developer: every byte in decimal. -/
def PublicKey.describe (key : PublicKey) : String :=
  let bytes := key.bytes.toList.map fun byte => toString byte.toNat
  "PublicKey([" ++ String.intercalate ", " bytes ++ "])"

/-- The private half of a key pair. -/
structure SecretKey where
  /-- The key as stored. -/
  bytes : FixedBytes keySize
  deriving DecidableEq, Repr, Inhabited

/-- Secret keys are shown to nobody. -/
def SecretKey.describe (_ : SecretKey) : String := "SecretKey(<redacted>)"

/-- The symmetric key both ends of a session share. -/
structure SessionKey where
  /-- The key as derived. -/
  bytes : FixedBytes keySize
  deriving DecidableEq, Repr, Inhabited

/-- Session keys are shown to nobody. -/
def SessionKey.describe (_ : SessionKey) : String := "SessionKey(<redacted>)"

end CallGate
