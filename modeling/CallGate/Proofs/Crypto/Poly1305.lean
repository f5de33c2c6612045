import CallGate.Crypto.XChaCha20Poly1305
import CallGate.Proofs.Bytes
import Mathlib.Data.Nat.ModEq
import Mathlib.Tactic.Ring

/-! The authenticator as a polynomial of its message, and what the message of a ciphertext is. -/

namespace CallGate

namespace Poly1305

/-- The blocks are the message. -/
@[simp] theorem flatten_blocks (message : Bytes) : (blocks message).flatten = message := by
  -- The induction follows the cutting of the blocks.
  induction message using blocks.induct with
  | case1 message empty =>
    rw [blocks, if_pos empty]
    exact (List.isEmpty_iff.mp empty).symm
  | case2 message more ih =>
    -- The first block is what the others are behind.
    rw [blocks, if_neg more, List.flatten_cons, ih, List.take_append_drop]

/-- No block is empty or longer than sixteen bytes. -/
theorem length_of_mem_blocks {message block : Bytes} (among : block ∈ blocks message) :
    0 < block.length ∧ block.length ≤ 16 := by
  -- The block is the first one or one of the others.
  induction message using blocks.induct with
  | case1 message empty =>
    rw [blocks, if_pos empty] at among
    cases among
  | case2 message more ih =>
    rw [blocks, if_neg more] at among
    obtain rfl | later := List.mem_cons.mp among
    · have some : 0 < message.length :=
        List.length_pos_iff.mpr fun none => more (List.isEmpty_iff.mpr none)
      rw [List.length_take]
      omega
    · exact ih later

/-- A block as a number, with the closing one above its bytes. -/
theorem value_close (block : Bytes) :
    Bytes.value (block ++ [1]) = Bytes.value block + 256 ^ block.length := by
  -- The closing one moves up by a byte for every byte of the block.
  induction block with
  | nil => rfl
  | cons byte block ih =>
    rw [List.cons_append, Bytes.value, ih, Bytes.value, List.length_cons, pow_succ]
    omega

/-- The polynomial of a list of coefficients: the last one stands at the multiplier itself. -/
def polynomial (multiplier : Nat) : List Nat → Nat
  | [] => 0
  | coefficient :: rest =>
    coefficient * multiplier ^ (rest.length + 1) + polynomial multiplier rest

/-- The sum that is carried through the blocks is the value of the polynomial. -/
theorem accumulate_eq (multiplier : Nat) (message : Bytes) :
    accumulate multiplier message =
      polynomial multiplier ((blocks message).map fun block => Bytes.value (block ++ [1])) %
        modulus := by
  -- What has been summed up so far is raised once for every block that is still to come.
  have carried (rest : List Bytes) : ∀ sum, sum < modulus →
      rest.foldl (fun sum block => (sum + Bytes.value (block ++ [1])) * multiplier % modulus) sum =
        (sum * multiplier ^ rest.length +
          polynomial multiplier (rest.map fun block => Bytes.value (block ++ [1]))) % modulus := by
    induction rest with
    | nil =>
      intro sum less
      simp only [List.foldl_nil, List.length_nil, pow_zero, Nat.mul_one, List.map_nil, polynomial,
        Nat.add_zero, Nat.mod_eq_of_lt less]
    | cons block rest ih =>
      intro sum less
      rw [List.foldl_cons, ih _ (Nat.mod_lt _ (by decide)), List.map_cons, polynomial,
        List.length_map, List.length_cons]
      -- The sum may be reduced or not before it is raised.
      have reduced (factor summand : Nat) :
          ((sum + Bytes.value (block ++ [1])) * multiplier % modulus * factor + summand) % modulus =
            ((sum + Bytes.value (block ++ [1])) * multiplier * factor + summand) % modulus :=
        Nat.ModEq.add_right summand (Nat.ModEq.mul_right factor (Nat.mod_modEq _ _))
      rw [reduced]
      congr 1
      ring
  have start := carried (blocks message) 0 (by decide)
  rwa [Nat.zero_mul, Nat.zero_add] at start

/-- The sum is an element of the field. -/
theorem accumulate_lt (multiplier : Nat) (message : Bytes) :
    accumulate multiplier message < modulus := by
  -- It is a remainder.
  rw [accumulate_eq]
  exact Nat.mod_lt _ (by decide)

/-- A multiplier is cut down to 124 bits. -/
theorem clamp_lt (multiplier : Nat) : clamp multiplier < 2 ^ 124 :=
  -- The mask has no higher bit.
  Nat.lt_of_le_of_lt Nat.and_le_right (by decide)

/-- A tag is the sum of the message and the addend, as far as sixteen bytes hold it. -/
theorem value_tag (key : FixedBytes 32) (message : Bytes) :
    (tag key message).value =
      (accumulate (clamp (Bytes.value (key.toList.take 16))) message +
        Bytes.value (key.toList.drop 16)) % 2 ^ 128 :=
  -- Writing a number in sixteen bytes keeps its remainder.
  Bytes.value_littleEndian 16 _

/-- The tag of a message of 131 bytes, the last block of which has three. -/
example :
    let key := Bytes.ofHexDigits?
      "eea6a7251c1e72916d11c2cb214d3c252539121d8e234e652d651fa4c8cff880".toList
    let message := Bytes.ofHexDigits? (
      "8e993b9f48681273c29650ba32fc76ce48332ea7164d96a4476fb8c531a1186ac0" ++
      "dfc17c98dce87b4da7f011ec48c97271d2c20f9b928fe2270d6fb863d51738b48e" ++
      "eee314a7cc8ab932164548e526ae90224368517acfeabd6bb3732bc0e9da99832b" ++
      "61ca01b6de56244a9e88d5f9b37973f622a43d14a6599b1f654cb45a74e355a5").toList
    ((key.bind (FixedBytes.ofList? 32)).bind fun key =>
      message.map fun message => (tag key message).toHex) =
      some "f3ffc7703f9400e52a7dfb4b3d3305d9" := by
  decide +kernel

end Poly1305

namespace XChaCha20Poly1305

/-- A byte string is filled up to a multiple of sixteen. -/
theorem length_fill (bytes : Bytes) : (bytes.length + (fill bytes).length) % 16 = 0 := by
  -- The filling is what the remainder leaves up to sixteen.
  rw [fill, List.length_replicate]
  omega

/-- Nothing but the associated data and the ciphertext lead to what the tag is computed over. -/
theorem authenticated_inj {associated ciphertext associated' ciphertext' : Bytes}
    (short : associated.length < 2 ^ 64) (few : ciphertext.length < 2 ^ 64)
    (short' : associated'.length < 2 ^ 64) (few' : ciphertext'.length < 2 ^ 64)
    (same : authenticated associated ciphertext = authenticated associated' ciphertext') :
    associated = associated' ∧ ciphertext = ciphertext' := by
  -- A number of eight bytes is read back from them.
  have length (number number' : Nat) (less : number < 256 ^ 8) (less' : number' < 256 ^ 8)
      (equal : Bytes.littleEndian 8 number = Bytes.littleEndian 8 number') : number = number' := by
    have value := congrArg Bytes.value equal
    rw [Bytes.value_littleEndian, Bytes.value_littleEndian] at value
    rwa [Nat.mod_eq_of_lt less, Nat.mod_eq_of_lt less'] at value
  -- The two lengths stand at the end and are read first.
  simp only [authenticated] at same
  obtain ⟨front, last⟩ := List.append_inj' same (by simp)
  obtain ⟨front, before⟩ := List.append_inj' front (by simp)
  have ciphers := length _ _ few few' last
  have data := length _ _ short short' before
  -- With them it is known where each of the parts before them ends.
  have fills {one other : Bytes} (equal : one.length = other.length) :
      (fill one).length = (fill other).length := by
    rw [fill, fill, List.length_replicate, List.length_replicate, equal]
  obtain ⟨front, -⟩ := List.append_inj' front (fills ciphers)
  obtain ⟨front, text⟩ := List.append_inj' front ciphers
  exact ⟨(List.append_inj front data).1, text⟩

end XChaCha20Poly1305

end CallGate
