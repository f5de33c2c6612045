import CallGate.Bytes

/-! The Poly1305 one-time authenticator. -/

namespace CallGate.Poly1305

/-- The prime modulus of the authenticator. -/
def modulus : Nat := Nat.pow 2 130 - 5

/-- Clears the bits of the multiplier that must be zero. -/
def clamp (multiplier : Nat) : Nat := multiplier &&& 0x0ffffffc0ffffffc0ffffffc0fffffff

/-- Splits a message into blocks of sixteen bytes, the last one possibly shorter. -/
def blocks (message : Bytes) : List Bytes :=
  if message.isEmpty then []
  else message.take 16 :: blocks (message.drop 16)
termination_by message.length
decreasing_by
  rename_i nonempty
  cases message
  · simp at nonempty
  · simp only [List.length_drop, List.length_cons]
    omega

/-- The polynomial in the multiplier whose coefficients are the blocks, each closed by a one. -/
def accumulate (multiplier : Nat) (message : Bytes) : Nat :=
  (blocks message).foldl
    (fun sum block => (sum + Bytes.value (block ++ [1])) * multiplier % modulus) 0

/-- The tag of a message under a one-time key: the multiplier, then the final addend. -/
def tag (key : FixedBytes 32) (message : Bytes) : FixedBytes 16 :=
  let multiplier := clamp (Bytes.value (key.toList.take 16))
  let addend := Bytes.value (key.toList.drop 16)
  .littleEndian 16 (accumulate multiplier message + addend)

end CallGate.Poly1305
