import CallGate.Crypto.Mixing
import CallGate.Proofs.Crypto.Words
import Mathlib.Data.List.Forall2

/-! The SHA-256 digest is the one that the standard describes: the message is padded, and each block
of it is compressed into eight words in sixty-four rounds. -/

namespace CallGate

namespace Bytes

/-- The number whose base-256 digits are these bytes, most significant first. -/
def bigEndian (bytes : Bytes) : Nat := bytes.foldl (fun number byte => 256 * number + byte.toNat) 0

/-- Turning a byte string around exchanges the two readings. -/
theorem bigEndian_reverse (bytes : Bytes) : bigEndian bytes.reverse = value bytes := by
  -- The first byte of one reading is the last of the other, which is what the fold is turned for.
  rw [bigEndian, List.foldl_reverse]
  induction bytes with
  | nil => rfl
  | cons byte rest ih =>
    rw [List.foldr_cons, ih, value]
    omega

/-- The sixteen digits that bytes are written with. -/
def hexDigits : List Char :=
  ['0', '1', '2', '3', '4', '5', '6', '7', '8', '9', 'a', 'b', 'c', 'd', 'e', 'f']

/-- A text spells bytes with two digits for each of them, high half first. -/
inductive IsHex : Bytes → List Char → Prop
  | nil : IsHex [] []
  | cons {byte : UInt8} {rest : Bytes} {high low : Char} {text : List Char}
    (first : hexDigits[byte.toNat / 16]? = some high)
    (second : hexDigits[byte.toNat % 16]? = some low) (others : IsHex rest text) :
    IsHex (byte :: rest) (high :: low :: text)

/-- The text of bytes spells them. -/
theorem isHex_toHex (bytes : Bytes) : IsHex bytes bytes.toHex.toList := by
  -- A digit below sixteen is the one at its place.
  have digit : ∀ number < 16, hexDigits[number]? = some (Numeral.digit number) := by decide
  rw [toHex, String.toList_ofList]
  induction bytes with
  | nil => exact .nil
  | cons byte rest ih =>
    have small : byte.toNat < 256 := byte.toNat_lt
    exact .cons (digit _ (by omega)) (digit _ (by omega)) ih

end Bytes

namespace Sha256

/-- A word of 32 bits. -/
abbrev Word := BitVec 32

/-- The first sixty-four prime numbers. Below the square of eighteen, a number that is none has a
divisor below eighteen. -/
def primes : List Nat := (List.range 312).filter fun number =>
  2 ≤ number && (List.range' 2 16).all fun divisor => number ≤ divisor || number % divisor != 0

/-- A word holds the first 32 bits behind the point of a root. -/
def IsRootFraction (degree number : Nat) (word : Word) : Prop :=
  ∃ whole, (2 ^ 32 * whole + word.toNat) ^ degree ≤ 2 ^ (32 * degree) * number ∧
    2 ^ (32 * degree) * number < (2 ^ 32 * whole + word.toNat + 1) ^ degree

/-- A padded message: a closing bit, as few zeros as fill whole blocks, and the number of bits. -/
def IsPadded (message padded : Bytes) : Prop :=
  ∃ zeros size, padded = message ++ 0x80 :: (List.replicate zeros 0 ++ size) ∧ zeros < 64 ∧
    size.length = 8 ∧ Bytes.bigEndian size = 8 * message.length % 2 ^ 64 ∧ padded.length % 64 = 0

/-- The words that the rounds take from a block: its own, and each later one mixed from four before
it. -/
structure IsSchedule (block : Bytes) (words : Nat → Word) : Prop where
  own (place : Nat) (early : place < 16) :
    (words place).toNat = Bytes.bigEndian ((block.drop (4 * place)).take 4)
  mixed (place : Nat) (late : 16 ≤ place) (within : place < 64) :
    let recent := words (place - 2)
    let old := words (place - 15)
    words place = (recent.rotateRight 17 ^^^ recent.rotateRight 19 ^^^ recent >>> 10) +
      words (place - 7) + (old.rotateRight 7 ^^^ old.rotateRight 18 ^^^ old >>> 3) +
      words (place - 16)

/-- The eight words that the rounds work on. -/
structure Working where
  a : Word
  b : Word
  c : Word
  d : Word
  e : Word
  f : Word
  g : Word
  h : Word

namespace Working

/-- What a round makes of the words. -/
def next (constant word : Word) (now : Working) : Working :=
  let choice := (now.e &&& now.f) ^^^ (~~~now.e &&& now.g)
  let majority := (now.a &&& now.b) ^^^ (now.a &&& now.c) ^^^ (now.b &&& now.c)
  let first := now.h + (now.e.rotateRight 6 ^^^ now.e.rotateRight 11 ^^^ now.e.rotateRight 25) +
    choice + constant + word
  let second := (now.a.rotateRight 2 ^^^ now.a.rotateRight 13 ^^^ now.a.rotateRight 22) + majority
  ⟨first + second, now.a, now.b, now.c, now.d + first, now.e, now.f, now.g⟩

/-- Adds word to word. -/
def add (left right : Working) : Working :=
  ⟨left.a + right.a, left.b + right.b, left.c + right.c, left.d + right.d, left.e + right.e,
    left.f + right.f, left.g + right.g, left.h + right.h⟩

/-- The words, first to last. -/
def toList (now : Working) : List Word :=
  [now.a, now.b, now.c, now.d, now.e, now.f, now.g, now.h]

end Working

/-- A block leads from eight words to eight others: sixty-four rounds, and what was there before is
added. -/
def Compresses (constants : List Word) (block : Bytes) (before after : Working) : Prop :=
  ∃ (words : Nat → Word) (rounds : Nat → Working), IsSchedule block words ∧ rounds 0 = before ∧
    (∀ round constant, constants[round]? = some constant →
      rounds (round + 1) = (rounds round).next constant (words round)) ∧
    after = before.add (rounds constants.length)

/-- The digest of a message: its blocks are compressed one after the other. The rounds add cube
roots of primes, and the words before the first block are square roots of primes. -/
def IsDigest (message digest : Bytes) : Prop :=
  ∃ (constants : List Word) (padded : Bytes) (chain : Nat → Working),
    List.Forall₂ (IsRootFraction 3) primes constants ∧ IsPadded message padded ∧
    List.Forall₂ (IsRootFraction 2) (primes.take 8) (chain 0).toList ∧
    (∀ block < padded.length / 64, Compresses constants
      ((padded.drop (64 * block)).take 64) (chain block) (chain (block + 1))) ∧
    digest.length = 32 ∧
    ∀ place word, (chain (padded.length / 64)).toList[place]? = some word →
      Bytes.bigEndian ((digest.drop (4 * place)).take 4) = word.toNat

/-- Rotating by fewer places than a word has is rotating its bits. -/
theorem toBitVec_rotate (word amount : UInt32) (turned : 0 < amount.toNat)
    (few : amount.toNat < 32) :
    (rotate word amount).toBitVec = word.toBitVec.rotateRight amount.toNat := by
  -- The word is shifted both ways by amounts that make up its width.
  rw [rotate, UInt32.toBitVec_or, UInt32.toBitVec_shiftRight, UInt32.toBitVec_shiftLeft]
  exact Words.or_shifts_eq_rotateRight word.toBitVec turned few

section Mixing

variable (word : UInt32)

/-- The mix of the word fifteen places back, in rotations. -/
theorem toBitVec_smallSigma0 : (smallSigma0 word).toBitVec =
    word.toBitVec.rotateRight 7 ^^^ word.toBitVec.rotateRight 18 ^^^ word.toBitVec >>> 3 := by
  -- Each of the rotations is one of bits, and the shift is the same for both.
  rw [smallSigma0, UInt32.toBitVec_xor, UInt32.toBitVec_xor,
    toBitVec_rotate word 7 (by decide) (by decide), toBitVec_rotate word 18 (by decide) (by decide)]
  rfl

/-- The mix of the word two places back, in rotations. -/
theorem toBitVec_smallSigma1 : (smallSigma1 word).toBitVec =
    word.toBitVec.rotateRight 17 ^^^ word.toBitVec.rotateRight 19 ^^^ word.toBitVec >>> 10 := by
  -- Each of the rotations is one of bits, and the shift is the same for both.
  rw [smallSigma1, UInt32.toBitVec_xor, UInt32.toBitVec_xor,
    toBitVec_rotate word 17 (by decide) (by decide),
    toBitVec_rotate word 19 (by decide) (by decide)]
  rfl

/-- The mix of the first working word, in rotations. -/
theorem toBitVec_bigSigma0 : (bigSigma0 word).toBitVec =
    word.toBitVec.rotateRight 2 ^^^ word.toBitVec.rotateRight 13 ^^^
      word.toBitVec.rotateRight 22 := by
  -- Each of the three rotations is one of bits.
  rw [bigSigma0, UInt32.toBitVec_xor, UInt32.toBitVec_xor,
    toBitVec_rotate word 2 (by decide) (by decide),
    toBitVec_rotate word 13 (by decide) (by decide),
    toBitVec_rotate word 22 (by decide) (by decide)]
  rfl

/-- The mix of the fifth working word, in rotations. -/
theorem toBitVec_bigSigma1 : (bigSigma1 word).toBitVec =
    word.toBitVec.rotateRight 6 ^^^ word.toBitVec.rotateRight 11 ^^^
      word.toBitVec.rotateRight 25 := by
  -- Each of the three rotations is one of bits.
  rw [bigSigma1, UInt32.toBitVec_xor, UInt32.toBitVec_xor,
    toBitVec_rotate word 6 (by decide) (by decide),
    toBitVec_rotate word 11 (by decide) (by decide),
    toBitVec_rotate word 25 (by decide) (by decide)]
  rfl

end Mixing

/-- The eight words of a state. -/
def working (state : Vector UInt32 8) : Working :=
  let word (place : Nat) : Word := (state.getD place 0).toBitVec
  ⟨word 0, word 1, word 2, word 3, word 4, word 5, word 6, word 7⟩

/-- A round does to a state what it does to its words. -/
theorem working_step (state : Vector UInt32 8) (constant word : UInt32) :
    working (step state constant word) =
      (working state).next constant.toBitVec word.toBitVec := by
  -- The eight words are read off one by one, two of them fresh and the others moved down.
  simp [working, Vector.getD, step, Working.next, toBitVec_bigSigma0, toBitVec_bigSigma1]

/-- Lengthening a schedule leaves the words that are there. -/
theorem schedulePrefix_get (block : Array UInt8) (start : Nat) {place count upper : Nat}
    (within : place < count) (longer : count ≤ upper) :
    (schedulePrefix block start upper)[place] = (schedulePrefix block start count)[place] := by
  -- Induction on the longer of the two, which only ever grows at its end.
  induction upper with
  | zero => omega
  | succ upper ih =>
    -- It is the same schedule, or one word longer than one that is long enough.
    rcases Nat.eq_or_lt_of_le longer with same | less
    · subst same
      rfl
    · -- The one new word comes behind all of them.
      have before : place < upper := by omega
      rw [← ih (by omega), schedulePrefix]
      split <;> exact Vector.getElem_push_lt before

/-- Four bytes in a row, one by one. -/
theorem take_four (bytes : Bytes) (start : Nat) (within : start + 4 ≤ bytes.length) :
    (bytes.drop start).take 4 =
      [bytes[start], bytes[start + 1], bytes[start + 2], bytes[start + 3]] := by
  -- Each byte is the first of what is left once those before it are dropped.
  rw [List.drop_eq_getElem_cons (by omega), List.drop_eq_getElem_cons (by omega),
    List.drop_eq_getElem_cons (by omega), List.drop_eq_getElem_cons (by omega)]
  rfl

/-- Bytes that are moved to places of their own make up a number together. -/
theorem toNat_joined (first second third fourth : UInt8) :
    ((first.toUInt32 <<< 24) ||| (second.toUInt32 <<< 16) ||| (third.toUInt32 <<< 8) |||
      fourth.toUInt32).toNat = Bytes.bigEndian [first, second, third, fourth] := by
  -- Every byte keeps within its own eight bits, which is all that the joining depends on.
  have one : first.toNat < 256 := first.toNat_lt
  have two : second.toNat < 256 := second.toNat_lt
  have three : third.toNat < 256 := third.toNat_lt
  have four : fourth.toNat < 256 := fourth.toNat_lt
  have moved (byte : UInt8) (small : byte.toNat < 256) :
      (byte.toUInt32 <<< 24).toNat = 2 ^ 24 * byte.toNat ∧
        (byte.toUInt32 <<< 16).toNat = 2 ^ 16 * byte.toNat ∧
        (byte.toUInt32 <<< 8).toNat = 2 ^ 8 * byte.toNat := by
    simp only [UInt32.toNat_shiftLeft, UInt8.toNat_toUInt32, Nat.shiftLeft_eq]
    refine ⟨?_, ?_, ?_⟩ <;> simp <;> omega
  -- No two of the four have a bit at the same place, so that joining is adding.
  have upper : 2 ^ 24 * first.toNat ||| 2 ^ 16 * second.toNat =
      2 ^ 16 * (2 ^ 8 * first.toNat + second.toNat) := by
    rw [← Nat.two_pow_add_eq_or_of_lt (by omega)]
    omega
  have middle : 2 ^ 16 * (2 ^ 8 * first.toNat + second.toNat) ||| 2 ^ 8 * third.toNat =
      2 ^ 8 * (2 ^ 8 * (2 ^ 8 * first.toNat + second.toNat) + third.toNat) := by
    rw [← Nat.two_pow_add_eq_or_of_lt (by omega)]
    omega
  rw [UInt32.toNat_or, UInt32.toNat_or, UInt32.toNat_or, (moved first one).1,
    (moved second two).2.1, (moved third three).2.2, UInt8.toNat_toUInt32, upper, middle,
    ← Nat.two_pow_add_eq_or_of_lt (by omega)]
  simp [Bytes.bigEndian]

/-- A word is read from four bytes, most significant first. -/
theorem toNat_wordAt (bytes : Bytes) (start : Nat) (within : start + 4 ≤ bytes.length) :
    (wordAt bytes.toArray start).toNat = Bytes.bigEndian ((bytes.drop start).take 4) := by
  -- All four places are within the bytes, so none of them is read as zero.
  have get (place : Nat) (less : place < 4) :
      bytes.toArray.getD (start + place) 0 = bytes[start + place] := by
    simp [Array.getD, show start + place < bytes.length by omega]
  have head : bytes.toArray.getD (start + 0) 0 = bytes[start] := get 0 (by omega)
  rw [take_four bytes start within, ← toNat_joined, wordAt]
  simp only [head, get 1 (by omega), get 2 (by omega), get 3 (by omega)]

/-- The bytes of a word, most significant first, make up the word. -/
theorem bigEndian_bytes (word : UInt32) :
    Bytes.bigEndian [(word >>> 24).toUInt8, (word >>> 16).toUInt8, (word >>> 8).toUInt8,
      word.toUInt8] = word.toNat := by
  -- The four quotients are the digits of the word by 256.
  have small : word.toNat < 2 ^ 32 := word.toNat_lt
  simp [Bytes.bigEndian, UInt32.toNat_shiftRight, Nat.shiftRight_eq_div_pow]
  omega

/-- The words of a schedule are those that the rounds take from the block at its place. -/
theorem isSchedule_schedulePrefix (message : Bytes) (start : Nat)
    (within : start + 64 ≤ message.length) :
    IsSchedule ((message.drop start).take 64) fun place =>
      if there : place < 64 then
        (schedulePrefix message.toArray start 64)[place].toBitVec
      else 0 where
  -- The word was appended once and never changed, so it is looked at where it was appended.
  own place early := by
    have there : place < 64 := by omega
    have last : (schedulePrefix message.toArray start 64)[place] =
        (schedulePrefix message.toArray start (place + 1))[place] :=
      schedulePrefix_get _ _ (Nat.lt_succ_self place) there
    rw [dif_pos there, last]
    simp only [schedulePrefix, dif_neg (Nat.not_le_of_lt early), Vector.getElem_push_eq]
    -- The four bytes lie within the block, so cutting the block out does not matter.
    have same : (((message.drop start).take 64).drop (4 * place)).take 4 =
        (message.drop (start + 4 * place)).take 4 := by
      rw [List.drop_take, List.take_take, List.drop_drop, Nat.min_eq_left (by omega)]
    rw [same]
    exact toNat_wordAt message (start + 4 * place) (by omega)
  mixed place late within := by
    have last : (schedulePrefix message.toArray start 64)[place] =
        (schedulePrefix message.toArray start (place + 1))[place] :=
      schedulePrefix_get _ _ (Nat.lt_succ_self place) within
    -- The words that are mixed were there before this one.
    have earlier (other : Nat) (less : other < place) :
        (schedulePrefix message.toArray start 64)[other] =
          (schedulePrefix message.toArray start place)[other] :=
      schedulePrefix_get _ _ less (Nat.le_of_lt within)
    rw [dif_pos within, dif_pos (by omega), dif_pos (by omega), dif_pos (by omega),
      dif_pos (by omega), last, earlier _ (by omega), earlier _ (by omega), earlier _ (by omega),
      earlier _ (by omega)]
    simp only [schedulePrefix, dif_pos late, Vector.getElem_push_eq, UInt32.toBitVec_add,
      toBitVec_smallSigma0, toBitVec_smallSigma1]
    ac_rfl

/-- The constants of the rounds, as bits. -/
def constants : List Word := roundConstants.toList.map UInt32.toBitVec

/-- There is a constant for each round. -/
theorem length_constants : constants.length = 64 := by
  -- The table has so many places in its type.
  rw [constants, List.length_map, Vector.length_toList]

/-- The constant of a round is the one at its place. -/
theorem getElem?_constants {round : Nat} (less : round < 64) :
    constants[round]? = some roundConstants[round].toBitVec := by
  -- A constant is the entry of the table, as bits.
  simp only [constants, List.getElem?_map, Vector.getElem?_toList,
    Vector.getElem?_eq_getElem less, Option.map_some]

/-- A block is compressed by sixty-four rounds. -/
theorem compresses_compress (state : Vector UInt32 8) (message : Bytes) (start : Nat)
    (within : start + 64 ≤ message.length) :
    Compresses constants ((message.drop start).take 64) (working state)
      (working (compress state message.toArray start)) := by
  -- The states of the standard are those after so many rounds of the fold.
  have scheduled := isSchedule_schedulePrefix message start within
  rw [compress]
  generalize schedulePrefix message.toArray start 64 = words at scheduled ⊢
  let rounds (count : Nat) : Vector UInt32 8 := ((List.finRange 64).take count).foldl
    (fun state round => step state roundConstants[round] words[round]) state
  refine ⟨_, fun count => working (rounds count), scheduled, rfl, ?_, ?_⟩
  -- Every round has its constant and its word, and is one step.
  · intro round constant named
    have less : round < 64 := length_constants ▸ (List.getElem?_eq_some_iff.mp named).1
    rw [getElem?_constants less] at named
    obtain rfl := Option.some.inj named
    -- One round more is one step behind the others.
    have next : (List.finRange 64).take (round + 1) =
        (List.finRange 64).take round ++ [⟨round, less⟩] := by
      rw [List.take_add_one, List.getElem?_eq_getElem (by rw [List.length_finRange]; exact less),
        List.getElem_finRange]
      rfl
    have stepped : rounds (round + 1) =
        step (rounds round) roundConstants[round] words[round] := by
      simp only [rounds, next, List.foldl_append, List.foldl_cons, List.foldl_nil]
      rfl
    dsimp only
    rw [stepped, working_step, dif_pos less]
  -- All the rounds are taken, and the sums with the state are added word by word.
  · have all : rounds constants.length = (List.finRange 64).foldl
        (fun state round => step state roundConstants[round] words[round]) state := by
      simp only [rounds]
      rw [length_constants, List.take_of_length_le (Nat.le_of_eq List.length_finRange)]
    dsimp only
    rw [all]
    simp [working, Vector.getD, Working.add]

/-- Padding fills whole blocks. -/
theorem isPadded_pad (message : Bytes) : IsPadded message (pad message).toList := by
  -- The number of zeros and the length at the end are the ones that were appended.
  refine ⟨paddingZeros message.length, (Bytes.littleEndian 8 (8 * message.length)).reverse, ?_, ?_,
    ?_, ?_, ?_⟩
  · rfl
  · exact Nat.mod_lt _ (by decide)
  · simp
  · rw [Bytes.bigEndian_reverse, Bytes.value_littleEndian]
    rfl
  -- With the length, the closing bit and the zeros a whole block is filled.
  · simp only [pad, List.length_append, List.length_cons, List.length_replicate,
      List.length_reverse, Bytes.length_littleEndian, paddingZeros]
    omega

/-- A state has its words at their places. -/
theorem getElem?_working (state : Vector UInt32 8) {place : Nat} (less : place < 8) :
    (working state).toList[place]? = some state[place].toBitVec :=
  match place, less with
  | 0, _ | 1, _ | 2, _ | 3, _ | 4, _ | 5, _ | 6, _ | 7, _ => by
    simp [working, Vector.getD, Working.toList]

/-- The bytes of a word that are written in a row make up the word. -/
theorem bigEndian_written {bytes : Bytes} {start : Nat} (word : UInt32)
    (written : ∀ offset < 4, bytes[start + offset]? =
      some (word >>> (24 - 8 * UInt32.ofNat offset)).toUInt8) :
    Bytes.bigEndian ((bytes.drop start).take 4) = word.toNat := by
  -- The last of the four bytes is there, so the others are.
  have within : start + 3 < bytes.length :=
    (List.getElem?_eq_some_iff.mp (written 3 (by omega))).1
  have byte (offset : Nat) (less : offset < 4) (there : start + offset < bytes.length) :
      bytes[start + offset] = (word >>> (24 - 8 * UInt32.ofNat offset)).toUInt8 :=
    (List.getElem?_eq_some_iff.mp (written offset less)).2
  have first : bytes[start] = (word >>> 24).toUInt8 := byte 0 (by omega) (by omega)
  have last : bytes[start + 3] = word.toUInt8 := by
    have zero : word >>> 0 = word := by simp
    rw [byte 3 (by omega) within]
    exact congrArg UInt32.toUInt8 zero
  rw [take_four bytes start within, first, byte 1 (by omega), byte 2 (by omega), last]
  exact bigEndian_bytes word

/-- Words hold the roots of numbers if a small whole part can be found for each. -/
theorem areRootFractions {degree : Nat} {numbers : List Nat} {words : List Word}
    (many : numbers.length = words.length)
    (found : ∀ pair ∈ numbers.zip words, ∃ whole < 8,
      (2 ^ 32 * whole + pair.2.toNat) ^ degree ≤ 2 ^ (32 * degree) * pair.1 ∧
        2 ^ (32 * degree) * pair.1 < (2 ^ 32 * whole + pair.2.toNat + 1) ^ degree) :
    List.Forall₂ (IsRootFraction degree) numbers words := by
  -- Roots are looked for word by word, in the pairs of numbers and words.
  refine List.forall₂_iff_zip.mpr ⟨many, ?_⟩
  intro number word member
  obtain ⟨whole, _, root⟩ := found (number, word) member
  exact ⟨whole, root⟩

/-- The constants of the rounds are cube roots of the first sixty-four primes. -/
theorem constants_roots : List.Forall₂ (IsRootFraction 3) primes constants :=
  -- For each of the sixty-four words a whole part below eight is found by trying.
  areRootFractions (by decide +kernel) (by decide +kernel)

/-- The words before the first block are square roots of the first eight primes. -/
theorem initial_roots : List.Forall₂ (IsRootFraction 2) (primes.take 8) (working initial).toList :=
  -- For each of the eight words a whole part below eight is found by trying.
  areRootFractions (by decide +kernel) (by decide +kernel)

/-- Every message has the digest that the standard describes. -/
theorem isDigest_hash (message : Bytes) : IsDigest message (hash message).toList := by
  -- The chaining values are those of the fold over the blocks.
  let chain (count : Nat) : Vector UInt32 8 := (List.range count).foldl
    (fun state block => compress state (pad message) (64 * block)) initial
  refine ⟨constants, (pad message).toList, fun count => working (chain count), constants_roots,
    isPadded_pad message, initial_roots, ?_, (hash message).length_toList, ?_⟩
  · intro block there
    -- The block lies within the padded message, so all of its words are read from it.
    have within : 64 * block + 64 ≤ (pad message).toList.length := by omega
    have next : chain (block + 1) = compress (chain block) (pad message) (64 * block) := by
      simp only [chain, List.range_succ, List.foldl_append, List.foldl_cons, List.foldl_nil]
    have compressed := compresses_compress (chain block) (pad message).toList (64 * block) within
    rw [Array.toArray_toList, ← next] at compressed
    exact compressed
  -- The bytes of the digest are the words of the last chaining value.
  · intro place word named
    have less : place < 8 := (List.getElem?_eq_some_iff.mp named).1
    rw [getElem?_working _ less, Array.length_toList] at named
    rw [← Option.some.inj named]
    refine bigEndian_written (chain ((pad message).size / 64))[place] ?_
    intro offset few
    -- The four bytes of a word are those at four times its place.
    have quotient : (4 * place + offset) / 4 = place := by omega
    have remainder : (4 * place + offset) % 4 = offset := by omega
    have within : 4 * place + offset < 32 := by omega
    simp only [hash, FixedBytes.ofVector, Vector.getElem?_toList,
      Vector.getElem?_eq_getElem within, Vector.getElem_ofFn, quotient, remainder]
    rfl

/-- The digest of three letters. -/
example : (hash "abc".toUTF8.toList).toHex =
    "ba7816bf8f01cfea414140de5dae2223b00361a396177a9cb410ff61f20015ad" := by
  decide +kernel

end Sha256

end CallGate
