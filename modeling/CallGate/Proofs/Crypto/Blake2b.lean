import CallGate.Crypto.Mixing
import CallGate.Proofs.Crypto.Words
import Mathlib.Algebra.Group.Nat.Defs

/-! What the steps of the BLAKE2b hash do with the words of its state. -/

namespace CallGate.Blake2b

/-- Every computation starts from the first 64 bits behind the points of the square roots of the
first eight prime numbers. -/
theorem initial_roots : ∀ pair ∈ [2, 3, 5, 7, 11, 13, 17, 19].zip initial.toList,
    ∃ whole < 5, (2 ^ 64 * whole + pair.2.toNat) ^ 2 ≤ 2 ^ 128 * pair.1 ∧
      2 ^ 128 * pair.1 < (2 ^ 64 * whole + pair.2.toNat + 1) ^ 2 := by
  -- The eight words are checked one by one.
  decide +kernel

/-- A round mixes every word of the state in one of its columns, and then in one of its
diagonals. -/
theorem lanes_cover : ∀ half ∈ [lanes.toList.take 4, lanes.toList.drop 4],
    (half.flatMap fun lane =>
      [lane.1.val, lane.2.1.val, lane.2.2.1.val, lane.2.2.2.val]).Nodup := by
  -- Each half of the round names each of the sixteen places, and none of them twice.
  decide +kernel

/-- Every order takes every word of the message once. -/
theorem permutations_cover (order : Fin 10) :
    ((permutations.get order).toList.map Fin.val).Nodup := by
  -- There are ten orders, and each is checked.
  revert order
  decide +kernel

/-- Rotating by fewer places than a word has is rotating its bits. -/
theorem toBitVec_rotate (word amount : UInt64) (turned : 0 < amount.toNat)
    (few : amount.toNat < 64) :
    (rotate word amount).toBitVec = word.toBitVec.rotateRight amount.toNat := by
  -- The word is shifted both ways by amounts that make up its width.
  rw [rotate, UInt64.toBitVec_or, UInt64.toBitVec_shiftRight, UInt64.toBitVec_shiftLeft]
  exact Words.or_shifts_eq_rotateRight word.toBitVec turned few

/-- What mixing two words of the message in makes of four words of the state. -/
def stirred (a b c d x y : BitVec 64) : List (BitVec 64) :=
  let a := a + b + x
  let d := (d ^^^ a).rotateRight 32
  let c := c + d
  let b := (b ^^^ c).rotateRight 24
  let a := a + b + y
  let d := (d ^^^ a).rotateRight 16
  let c := c + d
  let b := (b ^^^ c).rotateRight 63
  [a, b, c, d]

/-- Rotates what two words differ in. -/
def turn (amount word other : UInt64) : UInt64 := rotate (word ^^^ other) amount

/-- A step of mixing stirs its four words twice, and takes in one word of the message each time. -/
theorem get_mix (state : Vector UInt64 16) (a b c d : Fin 16) (x y : UInt64) :
    (mix state a b c d x y).get =
      Words.stir (· + · + y) (turn 16) (· + ·) (turn 63) a b c d
        (Words.stir (· + · + x) (turn 32) (· + ·) (turn 24) a b c d state.get) := by
  have read (state : Vector UInt64 16) (place : Fin 16) : state[place] = state.get place := rfl
  simp only [mix, Words.stir, turn, read, Words.get_set]

/-- A step of mixing stirs its four words. -/
theorem mix_stirs (state : Vector UInt64 16) {a b c d : Fin 16} (apart : [a, b, c, d].Nodup)
    (x y : UInt64) :
    [a, b, c, d].map (fun place => ((mix state a b c d x y).get place).toBitVec) =
      stirred (state.get a).toBitVec (state.get b).toBitVec (state.get c).toBitVec
        (state.get d).toBitVec x.toBitVec y.toBitVec := by
  have once := Words.stirred_stir (· + · + x) (turn 32) (· + ·) (turn 24) state.get apart
  have again := Words.stirred_stir (· + · + y) (turn 16) (· + ·) (turn 63)
    (Words.stir (· + · + x) (turn 32) (· + ·) (turn 24) a b c d state.get) apart
  have turned (word amount : UInt64) := toBitVec_rotate word amount
  -- The words at the end are told from those in between, and these from the state.
  simp only [get_mix, stirred, List.map_cons, List.map_nil, again.fourth, again.third,
    again.second, again.first, once.fourth, once.third, once.second, once.first, turn,
    UInt64.toBitVec_add, UInt64.toBitVec_xor, turned _ 32 (by decide) (by decide),
    turned _ 24 (by decide) (by decide), turned _ 16 (by decide) (by decide),
    turned _ 63 (by decide) (by decide)]
  rfl

/-- A step of mixing leaves all other words alone. -/
theorem mix_of_apart (state : Vector UInt64 16) {a b c d place : Fin 16}
    (apart : place ∉ [a, b, c, d]) (x y : UInt64) :
    (mix state a b c d x y).get place = state.get place := by
  -- Neither of the two stirs it.
  rw [get_mix, Words.stir_of_apart _ _ _ _ _ apart, Words.stir_of_apart _ _ _ _ _ apart]

/-- The hash of the letters a, b and c. -/
example : (hash [97, 98, 99]).toHex =
    "bddd813c634239723171ef3fee98579b94964e3bb1cb3e427262c8c068d52319" := by
  decide +kernel

end CallGate.Blake2b
