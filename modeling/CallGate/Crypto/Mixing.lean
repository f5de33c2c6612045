import CallGate.Bytes

/-! Three primitives that stir the words of a state: the BLAKE2b hash, the ChaCha20 cipher and the
SHA-256 digest. -/

/-! The unkeyed BLAKE2b hash with a 32-byte digest. -/

namespace CallGate.Blake2b

/-- The words every computation starts from. -/
def initial : Vector UInt64 8 :=
  #v[
    0x6a09e667f3bcc908, 0xbb67ae8584caa73b, 0x3c6ef372fe94f82b, 0xa54ff53a5f1d36f1,
    0x510e527fade682d1, 0x9b05688c2b3e6c1f, 0x1f83d9abfb41bd6b, 0x5be0cd19137e2179]

/-- The order in which each of the ten rounds takes the message words. -/
def permutations : Vector (Vector (Fin 16) 16) 10 :=
  #v[
    #v[0, 1, 2, 3, 4, 5, 6, 7, 8, 9, 10, 11, 12, 13, 14, 15],
    #v[14, 10, 4, 8, 9, 15, 13, 6, 1, 12, 0, 2, 11, 7, 5, 3],
    #v[11, 8, 12, 0, 5, 2, 15, 13, 10, 14, 3, 6, 7, 1, 9, 4],
    #v[7, 9, 3, 1, 13, 12, 11, 14, 2, 6, 5, 10, 4, 0, 15, 8],
    #v[9, 0, 5, 7, 2, 4, 10, 15, 14, 1, 11, 12, 6, 8, 3, 13],
    #v[2, 12, 6, 10, 0, 11, 8, 3, 4, 13, 7, 5, 15, 14, 1, 9],
    #v[12, 5, 1, 15, 14, 13, 4, 10, 0, 7, 6, 3, 9, 2, 8, 11],
    #v[13, 11, 7, 14, 12, 1, 3, 9, 5, 0, 15, 4, 8, 6, 2, 10],
    #v[6, 15, 14, 9, 11, 3, 0, 8, 12, 2, 13, 7, 1, 4, 10, 5],
    #v[10, 2, 8, 4, 7, 6, 1, 5, 15, 11, 9, 14, 3, 12, 13, 0]]

/-- The mixing steps of a round: four columns, then four diagonals. -/
def lanes : Vector (Fin 16 × Fin 16 × Fin 16 × Fin 16) 8 :=
  #v[
    (0, 4, 8, 12), (1, 5, 9, 13), (2, 6, 10, 14), (3, 7, 11, 15),
    (0, 5, 10, 15), (1, 6, 11, 12), (2, 7, 8, 13), (3, 4, 9, 14)]

/-- A word rotated toward its low end. -/
def rotate (word amount : UInt64) : UInt64 := (word >>> amount) ||| (word <<< (64 - amount))

/-- Mixes two message words into four words of the state. -/
def mix (state : Vector UInt64 16) (a b c d : Fin 16) (x y : UInt64) : Vector UInt64 16 :=
  let state := state.set a (state[a] + state[b] + x)
  let state := state.set d (rotate (state[d] ^^^ state[a]) 32)
  let state := state.set c (state[c] + state[d])
  let state := state.set b (rotate (state[b] ^^^ state[c]) 24)
  let state := state.set a (state[a] + state[b] + y)
  let state := state.set d (rotate (state[d] ^^^ state[a]) 16)
  let state := state.set c (state[c] + state[d])
  state.set b (rotate (state[b] ^^^ state[c]) 63)

/-- One round over all sixteen words of the state. -/
def round (message state : Vector UInt64 16) (order : Vector (Fin 16) 16) : Vector UInt64 16 :=
  (List.finRange 8).foldl (fun state lane =>
    let (a, b, c, d) := lanes[lane]
    mix state a b c d message[order[2 * lane.val]] message[order[2 * lane.val + 1]]) state

/-- The chaining value after one block.

`count` is the number of bytes up to the end of the block. -/
def compress (chain : Vector UInt64 8) (message : Vector UInt64 16) (count : Nat) (last : Bool) :
    Vector UInt64 8 :=
  let start : Vector UInt64 16 := chain ++ initial
  let start := start.set 12 (start[12] ^^^ UInt64.ofNat count)
  let start := start.set 13 (start[13] ^^^ UInt64.ofNat (count / UInt64.size))
  -- The last block is marked by inverting one word.
  let start := if last then start.set 14 (~~~start[14]) else start
  -- Twelve rounds go through the ten orders and begin again.
  let mixed := (List.range 12).foldl
    (fun state index => round message state (permutations.get ⟨index % 10, by omega⟩)) start
  .ofFn fun (place : Fin 8) => chain[place] ^^^ mixed[place.val] ^^^ mixed[place.val + 8]

/-- The words of a block of at most 128 bytes, filled with zeros. -/
def words (block : Array UInt8) (start : Nat) : Vector UInt64 16 :=
  .ofFn fun (place : Fin 16) =>
    let byte (offset : Nat) := (block.getD (start + 8 * place.val + offset) 0).toUInt64
    (List.range 8).foldl (fun word offset => word ||| (byte offset <<< (8 * UInt64.ofNat offset))) 0

/-- The chaining value before the first block, bound to the digest length. -/
def parameters : Vector UInt64 8 := initial.set 0 (initial[0] ^^^ 0x01010020)

/-- The 32-byte digest of a message. -/
def hash (message : Bytes) : FixedBytes 32 :=
  let bytes := message.toArray
  -- An empty message still has one block, and a full final block is not followed by another.
  let blocks := (bytes.size + 127) / 128 - 1
  let chain := (List.range blocks).foldl
    (fun chain block => compress chain (words bytes (128 * block)) (128 * (block + 1)) false)
    parameters
  let final := compress chain (words bytes (128 * blocks)) bytes.size true
  .ofVector (.ofFn fun (place : Fin 32) =>
    (final[place.val / 8] >>> (8 * UInt64.ofNat (place.val % 8))).toUInt8)

end CallGate.Blake2b

/-! The ChaCha20 stream cipher and the HChaCha20 key derivation built on its rounds. -/

namespace CallGate.ChaCha20

/-- The words that open every state. -/
def constants : Vector UInt32 4 := #v[0x61707865, 0x3320646e, 0x79622d32, 0x6b206574]

/-- A word rotated toward its high end. -/
def rotate (word amount : UInt32) : UInt32 := (word <<< amount) ||| (word >>> (32 - amount))

/-- Mixes four words of the state. -/
def quarterRound (state : Vector UInt32 16) (a b c d : Fin 16) : Vector UInt32 16 :=
  let state := state.set a (state[a] + state[b])
  let state := state.set d (rotate (state[d] ^^^ state[a]) 16)
  let state := state.set c (state[c] + state[d])
  let state := state.set b (rotate (state[b] ^^^ state[c]) 12)
  let state := state.set a (state[a] + state[b])
  let state := state.set d (rotate (state[d] ^^^ state[a]) 8)
  let state := state.set c (state[c] + state[d])
  state.set b (rotate (state[b] ^^^ state[c]) 7)

/-- A round over the columns followed by a round over the diagonals. -/
def doubleRound (state : Vector UInt32 16) : Vector UInt32 16 :=
  let state := quarterRound state 0 4 8 12
  let state := quarterRound state 1 5 9 13
  let state := quarterRound state 2 6 10 14
  let state := quarterRound state 3 7 11 15
  let state := quarterRound state 0 5 10 15
  let state := quarterRound state 1 6 11 12
  let state := quarterRound state 2 7 8 13
  quarterRound state 3 4 9 14

/-- Ten double rounds. -/
def rounds (state : Vector UInt32 16) : Vector UInt32 16 :=
  (List.range 10).foldl (fun state _ => doubleRound state) state

/-- The first `count` little-endian words of a byte string. -/
def words (count : Nat) (bytes : Bytes) : Vector UInt32 count :=
  let bytes := bytes.toArray
  .ofFn fun place =>
    let byte (offset : Nat) := (bytes.getD (4 * place.val + offset) 0).toUInt32
    byte 0 ||| (byte 1 <<< 8) ||| (byte 2 <<< 16) ||| (byte 3 <<< 24)

/-- Words as bytes, least significant byte of each first. -/
def bytes {count : Nat} (words : Vector UInt32 count) : Bytes :=
  words.toList.flatMap fun (word : UInt32) =>
    [word.toUInt8, (word >>> 8).toUInt8, (word >>> 16).toUInt8, (word >>> 24).toUInt8]

/-- The state for a key and the sixteen bytes that follow it. -/
def start (key : FixedBytes 32) (rest : Bytes) : Vector UInt32 16 :=
  (constants ++ words 8 key.toList) ++ words 4 rest

/-- Sixty-four bytes of keystream for a block counter. -/
def block (key : FixedBytes 32) (nonce : FixedBytes 12) (counter : UInt32) : Bytes :=
  let state := start key (Bytes.ofUInt32 counter ++ nonce.toList)
  bytes (state.zipWith (· + ·) (rounds state))

/-- The keystream blocks from a counter on, as many as asked for. -/
def keystream (key : FixedBytes 32) (nonce : FixedBytes 12) (counter : UInt32) :
    (blocks : Nat) → Bytes
  | 0 => []
  | blocks + 1 => block key nonce counter ++ keystream key nonce (counter + 1) blocks

/-- Combines text with keystream byte by byte, keeping the length of the text. -/
def combine : Bytes → Bytes → Bytes
  | [], _ => []
  | text, [] => text
  | byte :: text, mask :: stream => (byte ^^^ mask) :: combine text stream

/-- Combining keeps the length of the text, however long the keystream is. -/
@[simp] theorem length_combine (text stream : Bytes) :
    (combine text stream).length = text.length := by
  induction text generalizing stream with
  | nil => rfl
  | cons byte text ih => cases stream <;> simp [combine, ih]

/-- Encrypts or decrypts a text with the keystream from block one on. -/
def apply {size : Nat} (key : FixedBytes 32) (nonce : FixedBytes 12) (text : FixedBytes size) :
    FixedBytes size :=
  ⟨combine text.toList (keystream key nonce 1 ((size + 63) / 64)), by
    simp [text.length_toList]⟩

/-- A key for the inner cipher, from a key and the first sixteen bytes of a long nonce. -/
def subkey (key : FixedBytes 32) (nonce : FixedBytes 16) : FixedBytes 32 :=
  let mixed := rounds (start key nonce.toList)
  -- The outer four words on either side are kept, without adding the start state.
  .ofVector (.ofFn fun (place : Fin 32) =>
    let word := if place.val < 16 then mixed[place.val / 4] else mixed[place.val / 4 + 8]
    (word >>> (8 * UInt32.ofNat (place.val % 4))).toUInt8)

end CallGate.ChaCha20

/-! The SHA-256 digest. -/

namespace CallGate.Sha256

/-- The additive constant of each round. -/
def roundConstants : Vector UInt32 64 :=
  #v[
    0x428a2f98, 0x71374491, 0xb5c0fbcf, 0xe9b5dba5, 0x3956c25b, 0x59f111f1, 0x923f82a4, 0xab1c5ed5,
    0xd807aa98, 0x12835b01, 0x243185be, 0x550c7dc3, 0x72be5d74, 0x80deb1fe, 0x9bdc06a7, 0xc19bf174,
    0xe49b69c1, 0xefbe4786, 0x0fc19dc6, 0x240ca1cc, 0x2de92c6f, 0x4a7484aa, 0x5cb0a9dc, 0x76f988da,
    0x983e5152, 0xa831c66d, 0xb00327c8, 0xbf597fc7, 0xc6e00bf3, 0xd5a79147, 0x06ca6351, 0x14292967,
    0x27b70a85, 0x2e1b2138, 0x4d2c6dfc, 0x53380d13, 0x650a7354, 0x766a0abb, 0x81c2c92e, 0x92722c85,
    0xa2bfe8a1, 0xa81a664b, 0xc24b8b70, 0xc76c51a3, 0xd192e819, 0xd6990624, 0xf40e3585, 0x106aa070,
    0x19a4c116, 0x1e376c08, 0x2748774c, 0x34b0bcb5, 0x391c0cb3, 0x4ed8aa4a, 0x5b9cca4f, 0x682e6ff3,
    0x748f82ee, 0x78a5636f, 0x84c87814, 0x8cc70208, 0x90befffa, 0xa4506ceb, 0xbef9a3f7, 0xc67178f2]

/-- The chaining value before the first block. -/
def initial : Vector UInt32 8 :=
  #v[
    0x6a09e667, 0xbb67ae85, 0x3c6ef372, 0xa54ff53a, 0x510e527f, 0x9b05688c, 0x1f83d9ab, 0x5be0cd19]

/-- A word rotated toward its low end. -/
def rotate (word amount : UInt32) : UInt32 := (word >>> amount) ||| (word <<< (32 - amount))

/-- The schedule's mix of the word fifteen places back. -/
def smallSigma0 (word : UInt32) : UInt32 := rotate word 7 ^^^ rotate word 18 ^^^ (word >>> 3)

/-- The schedule's mix of the word two places back. -/
def smallSigma1 (word : UInt32) : UInt32 := rotate word 17 ^^^ rotate word 19 ^^^ (word >>> 10)

/-- The round's mix of the first state word. -/
def bigSigma0 (word : UInt32) : UInt32 := rotate word 2 ^^^ rotate word 13 ^^^ rotate word 22

/-- The round's mix of the fifth state word. -/
def bigSigma1 (word : UInt32) : UInt32 := rotate word 6 ^^^ rotate word 11 ^^^ rotate word 25

/-- Zero bytes between the closing bit and the length. -/
def paddingZeros (length : Nat) : Nat := (119 - length % 64) % 64

/-- The message, a closing bit, zeros to fill the block, and the length in bits. -/
def pad (message : Bytes) : Array UInt8 :=
  let bits := Bytes.littleEndian 8 (8 * message.length)
  (message ++ 0x80 :: (List.replicate (paddingZeros message.length) 0 ++ bits.reverse)).toArray

/-- The big-endian word at a byte position. -/
def wordAt (block : Array UInt8) (start : Nat) : UInt32 :=
  let byte (place : Nat) := (block.getD (start + place) 0).toUInt32
  (byte 0 <<< 24) ||| (byte 1 <<< 16) ||| (byte 2 <<< 8) ||| byte 3

/-- The first `count` words of the schedule of the block at a byte position. -/
def schedulePrefix (block : Array UInt8) (start : Nat) : (count : Nat) → Vector UInt32 count
  | 0 => #v[]
  | count + 1 =>
    let words := schedulePrefix block start count
    -- Sixteen words come from the block, and each later one mixes four before it.
    if later : 16 ≤ count then
      words.push (words[count - 16] + smallSigma0 words[count - 15] + words[count - 7] +
        smallSigma1 words[count - 2])
    else words.push (wordAt block (start + 4 * count))

/-- One round: the state moves down a place around two fresh words. -/
def step (state : Vector UInt32 8) (constant word : UInt32) : Vector UInt32 8 :=
  let choice := (state[4] &&& state[5]) ^^^ (~~~state[4] &&& state[6])
  let majority := (state[0] &&& state[1]) ^^^ (state[0] &&& state[2]) ^^^ (state[1] &&& state[2])
  let first := state[7] + bigSigma1 state[4] + choice + constant + word
  let second := bigSigma0 state[0] + majority
  #v[first + second, state[0], state[1], state[2], state[3] + first, state[4], state[5], state[6]]

/-- The chaining value after the block at a byte position. -/
def compress (state : Vector UInt32 8) (message : Array UInt8) (start : Nat) : Vector UInt32 8 :=
  let words := schedulePrefix message start 64
  let mixed := (List.finRange 64).foldl
    (fun state round => step state roundConstants[round] words[round]) state
  state.zipWith (· + ·) mixed

/-- The 32-byte digest of a message. -/
def hash (message : Bytes) : FixedBytes 32 :=
  let padded := pad message
  let final := (List.range (padded.size / 64)).foldl
    (fun state block => compress state padded (64 * block)) initial
  -- Each word is written most significant byte first.
  .ofVector (.ofFn fun (place : Fin 32) =>
    (final[place.val / 4] >>> (24 - 8 * UInt32.ofNat (place.val % 4))).toUInt8)

end CallGate.Sha256
