import CallGate.Crypto.Curve25519
import CallGate.Proofs.Bytes
import Mathlib.Algebra.Group.Nat.Defs

/-! The arithmetic under the key agreement: powers and differences are those of the field, scalars
are clamped, and a shared secret is written in its only reduced form. -/

namespace CallGate.Curve25519

/-- The field has a one besides its zero. -/
theorem one_lt_prime : 1 < prime := by decide +kernel

/-- Remainders are below the prime. -/
theorem prime_pos : 0 < prime := Nat.lt_of_succ_lt one_lt_prime

/-- Whatever fits a block of 32 bytes is written in full. -/
theorem value_littleEndian_of_lt {number : Nat} (small : number < prime) :
    (FixedBytes.littleEndian 32 number).value = number := by
  have room : prime ≤ 256 ^ 32 := by decide +kernel
  rw [FixedBytes.value, FixedBytes.littleEndian, Bytes.value_littleEndian,
    Nat.mod_eq_of_lt (Nat.lt_of_lt_of_le small room)]

/-- Squaring once for each bit comes to the power, if the exponent has no more bits than that. -/
theorem power_eq (base exponent bits : Nat) (few : exponent < 2 ^ bits) :
    power base exponent bits = base ^ exponent % prime := by
  induction bits generalizing base exponent with
  | zero =>
    -- The only exponent without a bit is zero.
    obtain rfl : exponent = 0 := by simpa using few
    exact (Nat.mod_eq_of_lt one_lt_prime).symm
  | succ bits ih =>
    have fewer : exponent / 2 < 2 ^ bits := by
      rw [Nat.pow_succ] at few
      omega
    -- The square taken to half the exponent is the base taken to twice that half.
    have halved : power (base * base % prime) (exponent / 2) bits =
        base ^ (2 * (exponent / 2)) % prime := by
      rw [ih _ _ fewer, ← Nat.pow_mod, ← Nat.pow_two, ← Nat.pow_mul]
    rw [power, halved]
    split
    · rename_i odd
      have whole : 2 * (exponent / 2) + 1 = exponent := by omega
      rw [Nat.mod_mul_mod, ← Nat.pow_succ, Nat.succ_eq_add_one, whole]
    · rename_i even
      have whole : 2 * (exponent / 2) = exponent := by omega
      rw [whole]

/-- The reciprocal is the power that turns every element of a field with so many elements into its
inverse. -/
theorem reciprocal_eq (element : Nat) : reciprocal element = element ^ (prime - 2) % prime :=
  -- The exponent has 255 bits, which is as often as is squared.
  power_eq element (prime - 2) 255 (by decide +kernel)

/-- Adding what was taken away gives back what there was. -/
theorem subtract_add (left : Nat) {right : Nat} (reduced : right ≤ prime) :
    (subtract left right + right) % prime = left % prime := by
  rw [subtract, Nat.mod_add_mod]
  -- The prime was lent so that the difference is not cut off at zero.
  have whole : left + prime - right + right = left + prime := by omega
  rw [whole, Nat.add_mod_right]

/-- Every scalar is a multiple of the cofactor, and its highest bit is bit 254. -/
theorem scalar_clamped (secret : FixedBytes 32) :
    8 ∣ scalar secret ∧ 2 ^ 254 ≤ scalar secret ∧ scalar secret < 2 ^ 255 := by
  simp only [scalar, Nat.pow_eq]
  generalize secret.value % 2 ^ 255 = number
  -- Taking the lowest three bits away leaves a multiple, which no higher bit changes.
  have multiple : (number - number % 8) % 2 ^ 254 % 8 = 0 := by omega
  omega

/-- Both points of the ladder are given by elements of the field. -/
structure Ladder.Reduced (points : Ladder) : Prop where
  x2 : points.x2 < prime
  z2 : points.z2 < prime
  x3 : points.x3 < prime
  z3 : points.z3 < prime

namespace Ladder

/-- Exchanging the points keeps them in the field. -/
theorem Reduced.swap {points : Ladder} (reduced : points.Reduced) (exchange : Bool) :
    (points.swap exchange).Reduced := by
  -- Either way the coordinates are the same four.
  unfold Ladder.swap
  split
  · exact ⟨reduced.x3, reduced.z3, reduced.x2, reduced.z2⟩
  · exact reduced

/-- A step leads into the field from anywhere. -/
theorem reduced_step (base : Nat) (points : Ladder) : (points.step base).Reduced where
  x2 := Nat.mod_lt _ prime_pos
  z2 := Nat.mod_lt _ prime_pos
  x3 := Nat.mod_lt _ prime_pos
  z3 := Nat.mod_lt _ prime_pos

end Ladder

/-- The ladder never leaves the field, for any number of steps. -/
theorem reduced_climb (scalar base bits : Nat) {points : Ladder} (reduced : points.Reduced) :
    (climb scalar base bits points).Reduced := by
  -- Induction on the bits that are left, with points of the field as the invariant.
  induction bits generalizing points with
  | zero => exact reduced
  | succ bits ih =>
    -- The step is reduced whatever it started from, and the exchange after it changes no value.
    exact ih ((Ladder.reduced_step base _).swap _)

/-- The points that the ladder of a key agreement ends with. -/
def summit (secret peer : FixedBytes 32) : Ladder :=
  let base := peer.value % Nat.pow 2 255 % prime
  climb (scalar secret) base 255 ⟨1, 0, base, 1⟩

/-- They are given by elements of the field, since the ladder starts with such points. -/
theorem reduced_summit (secret peer : FixedBytes 32) : (summit secret peer).Reduced :=
  -- The ladder starts from one, zero and a remainder, all of which are below the prime.
  reduced_climb _ _ _
    ⟨one_lt_prime, prime_pos, Nat.mod_lt _ prime_pos, one_lt_prime⟩

/-- The shared secret is the quotient of the two coordinates of the first point. -/
theorem value_agree (secret peer : FixedBytes 32) : (agree secret peer).value =
    (summit secret peer).x2 * (summit secret peer).z2 ^ (prime - 2) % prime := by
  -- A remainder fits the block, so it is what the block stands for.
  have written : agree secret peer = .littleEndian 32
      ((summit secret peer).x2 * reciprocal (summit secret peer).z2 % prime) := by
    unfold agree summit
    rfl
  rw [written, value_littleEndian_of_lt (Nat.mod_lt _ prime_pos), reciprocal_eq,
    Nat.mul_mod_mod]

/-- A shared secret stands for an element of the field, so there is one way to write it. -/
theorem value_agree_lt (secret peer : FixedBytes 32) : (agree secret peer).value < prime := by
  -- It is a remainder.
  rw [value_agree]
  exact Nat.mod_lt _ prime_pos

/-- A scalar and a coordinate, and the coordinate of their product. -/
example :
    let secret := Bytes.ofHexDigits?
      "a546e36bf0527c9d3b16154b82465edd62144c0ac1fc5a18506a2244ba449ac4".toList
    let peer := Bytes.ofHexDigits?
      "e6db6867583030db3594c1a424b15f7c726624ec26b3353b10a903a6d0ab1c4c".toList
    ((secret.bind (FixedBytes.ofList? 32)).bind fun secret =>
      (peer.bind (FixedBytes.ofList? 32)).map fun peer => (agree secret peer).toHex) =
      some "c3da55379de9c6908e94ea4df28d084f32eccf03491c71f754b4075577a28552" := by
  decide +kernel

end CallGate.Curve25519
