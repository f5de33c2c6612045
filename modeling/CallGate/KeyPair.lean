import CallGate.Crypto.Primitives
import CallGate.Files

/-! A party's static keys and how they are obtained. -/

namespace CallGate

/-- A public key and its secret. -/
structure KeyPair where
  publicKey : PublicKey
  secretKey : SecretKey
  deriving DecidableEq, Repr, Inhabited

/-- Why keys could not be loaded. -/
inductive KeyError where
  | unreadable (path : String) (cause : IoError)
  /-- The file is not as long as a key. -/
  | wrongLength (path : String) (length : Nat)
  /-- The public key belongs to another secret. -/
  | mismatch
  deriving DecidableEq, Repr

/-- What is reported when keys cannot be loaded. -/
def KeyError.message : KeyError → String
  | unreadable path cause => s!"Failed to read key file {path}: {cause.message}"
  | wrongLength path length => s!"Key file {path} holds {length} bytes, expected 32"
  | mismatch => "Public key does not match the private key"

namespace KeyPair

variable {σ : Type}

/-- The key pair of a secret. -/
def ofSecret (crypto : Primitives σ) (secret : SecretKey) : KeyPair :=
  ⟨crypto.publicKey secret, secret⟩

/-- A key pair with a fresh random secret. -/
def generate (crypto : Primitives σ) (state : σ) : KeyPair × σ :=
  let (secret, state) := crypto.random keySize state
  (ofSecret crypto ⟨secret⟩, state)

/-- The thirty-two bytes of a key file. -/
def readKey (read : ReadFile) (path : String) : Except KeyError (FixedBytes keySize) :=
  match read path with
  | .error cause => .error (.unreadable path cause)
  | .ok bytes =>
    if exact : bytes.length = keySize then .ok ⟨bytes, exact⟩
    else .error (.wrongLength path bytes.length)

/-- Loads a key pair from two files, the public one first.

The public file must hold the key that belongs to the secret. -/
def load (crypto : Primitives σ) (read : ReadFile) (publicPath privatePath : String) :
    Except KeyError KeyPair :=
  match readKey read publicPath with
  | .error error => .error error
  | .ok publicBytes =>
    match readKey read privatePath with
    | .error error => .error error
    | .ok secretBytes =>
      let pair := ofSecret crypto ⟨secretBytes⟩
      if pair.publicKey = ⟨publicBytes⟩ then .ok pair else .error .mismatch

/-- The key pair as shown to a developer. -/
def describe (keys : KeyPair) : String :=
  "KeyPair \x7b public: " ++ keys.publicKey.describe ++ ", secret: " ++
    keys.secretKey.describe ++ " \x7d"

end KeyPair

end CallGate
