import CallGate.Crypto.Mixing
import CallGate.Proofs.Crypto.Words

/-! What the rounds of the ChaCha20 cipher do with the words of its state, and how its keystream
meets a text. -/

namespace CallGate.ChaCha20

/-- Rotating by fewer places than a word has is rotating its bits. -/
theorem toBitVec_rotate (word amount : UInt32) (turned : 0 < amount.toNat)
    (few : amount.toNat < 32) :
    (rotate word amount).toBitVec = word.toBitVec.rotateLeft amount.toNat := by
  -- The word is shifted both ways by amounts that make up its width.
  rw [rotate, UInt32.toBitVec_or, UInt32.toBitVec_shiftRight, UInt32.toBitVec_shiftLeft]
  exact Words.or_shifts_eq_rotateLeft word.toBitVec turned few

/-- What a quarter of a round makes of four words of the state. -/
def quartered (a b c d : BitVec 32) : List (BitVec 32) :=
  let a := a + b
  let d := (d ^^^ a).rotateLeft 16
  let c := c + d
  let b := (b ^^^ c).rotateLeft 12
  let a := a + b
  let d := (d ^^^ a).rotateLeft 8
  let c := c + d
  let b := (b ^^^ c).rotateLeft 7
  [a, b, c, d]

/-- Rotates what two words differ in. -/
def turn (amount word other : UInt32) : UInt32 := rotate (word ^^^ other) amount

/-- A quarter of a round stirs its four words twice, and only the rotations differ. -/
theorem get_quarterRound (state : Vector UInt32 16) (a b c d : Fin 16) :
    (quarterRound state a b c d).get =
      Words.stir (· + ·) (turn 8) (· + ·) (turn 7) a b c d
        (Words.stir (· + ·) (turn 16) (· + ·) (turn 12) a b c d state.get) := by
  have read (state : Vector UInt32 16) (place : Fin 16) : state[place] = state.get place := rfl
  simp only [quarterRound, Words.stir, turn, read, Words.get_set]

/-- A quarter of a round mixes its four words. -/
theorem quarterRound_quarters (state : Vector UInt32 16) {a b c d : Fin 16}
    (apart : [a, b, c, d].Nodup) :
    [a, b, c, d].map (fun place => ((quarterRound state a b c d).get place).toBitVec) =
      quartered (state.get a).toBitVec (state.get b).toBitVec (state.get c).toBitVec
        (state.get d).toBitVec := by
  have once := Words.stirred_stir (· + ·) (turn 16) (· + ·) (turn 12) state.get apart
  have again := Words.stirred_stir (· + ·) (turn 8) (· + ·) (turn 7)
    (Words.stir (· + ·) (turn 16) (· + ·) (turn 12) a b c d state.get) apart
  have turned (word amount : UInt32) := toBitVec_rotate word amount
  -- The words at the end are told from those in between, and these from the state.
  simp only [get_quarterRound, quartered, List.map_cons, List.map_nil, again.fourth, again.third,
    again.second, again.first, once.fourth, once.third, once.second, once.first, turn,
    UInt32.toBitVec_add, UInt32.toBitVec_xor, turned _ 16 (by decide) (by decide),
    turned _ 12 (by decide) (by decide), turned _ 8 (by decide) (by decide),
    turned _ 7 (by decide) (by decide)]
  rfl

/-- A quarter of a round leaves all other words alone. -/
theorem quarterRound_of_apart (state : Vector UInt32 16) {a b c d place : Fin 16}
    (apart : place ∉ [a, b, c, d]) :
    (quarterRound state a b c d).get place = state.get place := by
  -- Neither of the two stirs it.
  rw [get_quarterRound, Words.stir_of_apart _ _ _ _ _ apart, Words.stir_of_apart _ _ _ _ _ apart]

/-- Every word is written as four bytes. -/
theorem length_bytes {count : Nat} (words : Vector UInt32 count) :
    (bytes words).length = 4 * count := by
  have four (word : UInt32) : ([word.toUInt8, (word >>> 8).toUInt8, (word >>> 16).toUInt8,
      (word >>> 24).toUInt8]).length = 4 := rfl
  -- The bytes are written word by word.
  rw [bytes, List.length_flatMap]
  simp only [four, List.map_const', List.sum_replicate_nat, Vector.length_toList]
  omega

/-- A written word begins with its least significant byte. -/
theorem getElem?_bytes {count place : Nat} (words : Vector UInt32 count)
    (within : place < 4 * count) :
    (bytes words)[place]? = some
      ((words.get ⟨place / 4, by omega⟩ >>> (8 * UInt32.ofNat (place % 4))).toUInt8) := by
  have each (list : List UInt32) : ∀ place, (list.flatMap fun (word : UInt32) =>
      [word.toUInt8, (word >>> 8).toUInt8, (word >>> 16).toUInt8, (word >>> 24).toUInt8])[place]? =
        list[place / 4]?.map fun word => (word >>> (8 * UInt32.ofNat (place % 4))).toUInt8 := by
    induction list with
    | nil => intro place; rfl
    | cons word rest ih =>
      -- The first word has the first four places, and the rest of them follow in the same way.
      intro place
      match place with
      | 0 => simp
      | 1 | 2 | 3 => rfl
      | place + 4 =>
        have quotient : (place + 4) / 4 = place / 4 + 1 := by omega
        have remainder : (place + 4) % 4 = place % 4 := by omega
        rw [quotient, remainder]
        exact ih place
  rw [bytes, each, Vector.getElem?_toList,
    Vector.getElem?_eq_getElem (show place / 4 < count by omega)]
  rfl

/-- A block of keystream has sixty-four bytes. -/
@[simp] theorem length_block (key : FixedBytes 32) (nonce : FixedBytes 12) (counter : UInt32) :
    (block key nonce counter).length = 64 :=
  -- It is sixteen words, written as bytes.
  length_bytes _

/-- The keystream is as long as its blocks. -/
@[simp] theorem length_keystream (key : FixedBytes 32) (nonce : FixedBytes 12) (counter : UInt32)
    (blocks : Nat) : (keystream key nonce counter blocks).length = 64 * blocks := by
  -- Each block is put in front of those that are counted from one more.
  induction blocks generalizing counter with
  | zero => rfl
  | succ blocks ih =>
    rw [keystream, List.length_append, length_block, ih]
    omega

/-- The known block of a key that counts up. -/
example : Bytes.toHex (block ⟨(List.range 32).map UInt8.ofNat, by decide⟩
      ⟨[0, 0, 0, 9, 0, 0, 0, 74, 0, 0, 0, 0], rfl⟩ 1) =
    "10f1e7e4d13b5915500fdd1fa32071c4c7d1f4c733c068030422aa9ac3d46c4e" ++
      "d2826446079faa0914c2d705d98b02a2b5129cd1de164eb9cbd083e8a2503c4e" := by
  decide +kernel

/-- A byte of the keystream is one of the block that its place falls in, and the blocks are counted
up. -/
theorem getElem?_keystream (key : FixedBytes 32) (nonce : FixedBytes 12) (counter : UInt32)
    {blocks place : Nat} (within : place < 64 * blocks) :
    (keystream key nonce counter blocks)[place]? =
      (block key nonce (counter + UInt32.ofNat (place / 64)))[place % 64]? := by
  -- The induction is on the blocks, and the place is counted from the first of them.
  induction blocks generalizing counter place with
  | zero => omega
  | succ blocks ih =>
    rw [keystream]
    by_cases first : place < 64
    -- The place falls in the first block, which is counted as it stands.
    · have quotient : place / 64 = 0 := Nat.div_eq_of_lt first
      have remainder : place % 64 = place := Nat.mod_eq_of_lt first
      have still : counter + UInt32.ofNat 0 = counter := UInt32.add_zero counter
      rw [List.getElem?_append_left (by rw [length_block]; exact first), quotient, remainder, still]
    -- It falls in a later block, which the rest of the keystream counts from one more.
    · obtain ⟨later, rfl⟩ : ∃ later, place = later + 64 := ⟨place - 64, by omega⟩
      have quotient : (later + 64) / 64 = later / 64 + 1 := by omega
      have remainder : (later + 64) % 64 = later % 64 := by omega
      have count : counter + 1 + UInt32.ofNat (later / 64) =
          counter + UInt32.ofNat (later / 64 + 1) := by
        rw [UInt32.ofNat_add, UInt32.add_assoc, UInt32.add_comm 1]
        rfl
      rw [List.getElem?_append_right (by rw [length_block]; omega), length_block,
        Nat.add_sub_cancel, ih (counter + 1) (by omega), quotient, remainder, count]

/-- With enough of a stream every byte of a text is combined with its own. -/
theorem combine_eq_zipWith {text stream : Bytes} (enough : text.length ≤ stream.length) :
    combine text stream = text.zipWith (· ^^^ ·) stream := by
  -- Text and stream are shortened together.
  induction text generalizing stream with
  | nil => rfl
  | cons byte text ih =>
    cases stream with
    | nil => simp at enough
    | cons mask stream =>
      rw [combine, List.zipWith_cons_cons, ih (Nat.le_of_succ_le_succ enough)]

/-- No byte of a text stays bare: it is combined with the byte at its place in the blocks from block
one on. -/
theorem getElem?_apply {size place : Nat} (key : FixedBytes 32) (nonce : FixedBytes 12)
    (text : FixedBytes size) (within : place < size) :
    ∃ byte mask, text.toList[place]? = some byte ∧
      (block key nonce (1 + UInt32.ofNat (place / 64)))[place % 64]? = some mask ∧
      (apply key nonce text).toList[place]? = some (byte ^^^ mask) := by
  -- The blocks are as many as the text begins, so the stream is long enough.
  have enough : size ≤ 64 * ((size + 63) / 64) := by omega
  have read : place < text.toList.length := by rw [text.length_toList]; exact within
  have masked : place % 64 < (block key nonce (1 + UInt32.ofNat (place / 64))).length := by
    rw [length_block]
    exact Nat.mod_lt place (by decide)
  have mask := getElem?_keystream key nonce 1 (Nat.lt_of_lt_of_le within enough)
  refine ⟨_, _, List.getElem?_eq_getElem read, List.getElem?_eq_getElem masked, ?_⟩
  have zipped : (apply key nonce text).toList =
      text.toList.zipWith (· ^^^ ·) (keystream key nonce 1 ((size + 63) / 64)) :=
    combine_eq_zipWith (by rw [text.length_toList, length_keystream]; exact enough)
  rw [zipped, List.getElem?_zipWith, List.getElem?_eq_getElem read, mask,
    List.getElem?_eq_getElem masked]

/-- Combining with the same stream twice gives the text back. -/
theorem combine_combine (text stream : Bytes) : combine (combine text stream) stream = text := by
  -- Text and stream are shortened together.
  induction text generalizing stream with
  | nil => rfl
  | cons byte text ih =>
    cases stream with
    | nil => rfl
    | cons mask stream =>
      -- The same mask comes twice, and a byte combined with itself is zero.
      have back : byte ^^^ mask ^^^ mask = byte := by
        rw [UInt8.xor_assoc, UInt8.xor_self, UInt8.xor_zero]
      rw [combine, combine, back, ih]

/-- Applying the keystream twice gives the text back. -/
theorem apply_apply {size : Nat} (key : FixedBytes 32) (nonce : FixedBytes 12)
    (text : FixedBytes size) : apply key nonce (apply key nonce text) = text := by
  -- The keystream depends on the key and the nonce only, so it is the same both times.
  apply FixedBytes.ext
  exact combine_combine text.toList _

/-- A derived key is the outer words of the mixed state, as they are written. -/
theorem getElem?_subkey (key : FixedBytes 32) (nonce : FixedBytes 16) {place : Nat}
    (within : place < 32) :
    (subkey key nonce).toList[place]? =
      (bytes (rounds (start key nonce.toList)))[if place < 16 then place else place + 32]? := by
  -- Only the first and the last four words are taken.
  have inside : (if place < 16 then place else place + 32) < 4 * 16 := by split <;> omega
  rw [getElem?_bytes _ inside]
  simp only [subkey, FixedBytes.ofVector, Vector.getElem?_toList,
    Vector.getElem?_eq_getElem within, Vector.getElem_ofFn]
  -- The second half is taken from eight words further on, and within a word nothing changes.
  split
  · rfl
  · have quotient : (place + 32) / 4 = place / 4 + 8 := by omega
    have remainder : (place + 32) % 4 = place % 4 := by omega
    simp only [quotient, remainder]
    rfl

/-- The known key derived from a key that counts up. -/
example : (subkey ⟨(List.range 32).map UInt8.ofNat, by decide⟩
      ⟨[0, 0, 0, 9, 0, 0, 0, 74, 0, 0, 0, 0, 49, 65, 89, 39], rfl⟩).toHex =
    "82413b4227b27bfed30e42508a877d73a0f9e4d58a74a853c12ec41326d3ecdc" := by
  decide +kernel

end CallGate.ChaCha20
