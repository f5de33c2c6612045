import CallGate.Bytes

/-! Key agreement on Curve25519. -/

namespace CallGate.Curve25519

/-- The prime of the field. -/
def prime : Nat := Nat.pow 2 255 - 19

/-- A difference in the field. -/
def subtract (left right : Nat) : Nat := (left + prime - right) % prime

/-- A power in the field, squaring once for each of `bits` bits of the exponent. -/
def power (base exponent : Nat) : (bits : Nat) → Nat
  | 0 => 1
  | bits + 1 =>
    -- The lowest remaining bit decides whether the base takes part.
    let rest := power (base * base % prime) (exponent / 2) bits
    if exponent % 2 = 1 then rest * base % prime else rest

/-- The reciprocal in the field, and zero for zero. -/
def reciprocal (element : Nat) : Nat := power element (prime - 2) 255

/-- Two points of the ladder, each as a numerator over a denominator. -/
structure Ladder where
  x2 : Nat
  z2 : Nat
  x3 : Nat
  z3 : Nat

/-- Exchanges the two points when asked to. -/
def Ladder.swap (points : Ladder) (exchange : Bool) : Ladder :=
  if exchange then ⟨points.x3, points.z3, points.x2, points.z2⟩ else points

/-- Doubles the first point and adds the two, whose difference has coordinate `base`. -/
def Ladder.step (base : Nat) (points : Ladder) : Ladder :=
  let a := (points.x2 + points.z2) % prime
  let b := subtract points.x2 points.z2
  let c := (points.x3 + points.z3) % prime
  let d := subtract points.x3 points.z3
  let aa := a * a % prime
  let bb := b * b % prime
  let e := subtract aa bb
  let da := d * a % prime
  let cb := c * b % prime
  let sum := (da + cb) % prime
  let difference := subtract da cb
  { x2 := aa * bb % prime
    z2 := e * ((aa + 121665 * e) % prime) % prime
    x3 := sum * sum % prime
    z3 := base * (difference * difference % prime) % prime }

/-- Goes through the low `bits` bits of the scalar, highest first. -/
def climb (scalar base : Nat) : (bits : Nat) → Ladder → Ladder
  | 0, points => points
  | bits + 1, points =>
    let bit := scalar.testBit bits
    -- The pair is exchanged around the step, so that the step itself never looks at the bit.
    climb scalar base bits (((points.swap bit).step base).swap bit)

/-- The scalar of a secret: a multiple of eight with bit 254 as its highest. -/
def scalar (secret : FixedBytes 32) : Nat :=
  let number := secret.value % Nat.pow 2 255
  (number - number % 8) % Nat.pow 2 254 + Nat.pow 2 254

/-- The shared secret of a secret and a peer's public key. -/
def agree (secret peer : FixedBytes 32) : FixedBytes 32 :=
  -- The highest bit of a public key carries no meaning.
  let base := peer.value % Nat.pow 2 255 % prime
  let points := climb (scalar secret) base 255 ⟨1, 0, base, 1⟩
  .littleEndian 32 (points.x2 * reciprocal points.z2 % prime)

/-- The point every public key is a multiple of. -/
def basePoint : FixedBytes 32 := .littleEndian 32 9

/-- The public key of a secret. -/
def publicKey (secret : FixedBytes 32) : FixedBytes 32 := agree secret basePoint

end CallGate.Curve25519
