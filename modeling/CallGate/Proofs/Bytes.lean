import Mathlib.Algebra.Group.Nat.Defs
import CallGate.Bytes

/-! Little-endian numbers and words are read back from their bytes, and blocks from their places. -/

namespace CallGate

namespace Bytes

/-- Writing keeps exactly the digits that fit. -/
theorem value_littleEndian (count number : Nat) :
    value (littleEndian count number) = number % 256 ^ count := by
  -- Induction on the bytes that are written.
  induction count generalizing number with
  | zero => simp [littleEndian, value, Nat.mod_one]
  | succ count ih =>
    -- The first byte is the number modulo 256, and the rest is its quotient.
    have digit : (UInt8.ofNat number).toNat = number % 256 := by simp
    rw [littleEndian, value, ih, digit, Nat.pow_succ', Nat.mod_mul]

/-- A byte string of `n` bytes stands for a number below `256 ^ n`. -/
theorem value_lt (bytes : Bytes) : value bytes < 256 ^ bytes.length := by
  -- Induction on the bytes, the first of which is the lowest digit.
  induction bytes with
  | nil => simp [value]
  | cons byte rest ih =>
    have small : byte.toNat < 256 := byte.toNat_lt
    -- One byte more is a factor of 256, and the byte adds less than that.
    rw [value, List.length_cons, Nat.pow_succ']
    omega

/-- Reading a byte string and writing the number back gives the same bytes. -/
theorem littleEndian_value (bytes : Bytes) :
    littleEndian bytes.length (value bytes) = bytes := by
  -- Induction on the bytes, each of which is the lowest digit of what is left.
  induction bytes with
  | nil => rfl
  | cons byte rest ih =>
    have small : byte.toNat < 256 := byte.toNat_lt
    -- Dividing takes the lowest digit off again, and the remainder is that digit.
    have quotient : (byte.toNat + 256 * value rest) / 256 = value rest := by omega
    have remainder : UInt8.ofNat (byte.toNat + 256 * value rest) = byte := by
      apply UInt8.toNat_inj.mp
      simp
    rw [List.length_cons, value, littleEndian, quotient, ih, remainder]

/-- A word is at the front of a byte string exactly when its four bytes are. -/
theorem word32?_eq_some_iff {bytes : Bytes} {word : UInt32} :
    word32? bytes = some word ↔ bytes.take 4 = ofUInt32 word := by
  -- A word fits four bytes, so writing it loses nothing.
  have small : word.toNat < 256 ^ 4 := word.toNat_lt
  constructor
  · intro read
    by_cases enough : 4 ≤ bytes.length
    · have four : (bytes.take 4).length = 4 := by simp [enough]
      have bound : value (bytes.take 4) < 2 ^ 32 := by
        simpa [four] using value_lt (bytes.take 4)
      simp only [word32?, enough, if_true, Option.some.injEq] at read
      -- The word is the number of the four bytes, so writing it gives them back.
      rw [← read, ofUInt32, UInt32.toNat_ofNat_of_lt' bound]
      simpa [four] using (littleEndian_value (bytes.take 4)).symm
    · simp [word32?, enough] at read
  · intro written
    -- The bytes of a word are four, so the stream has at least as many.
    have four : (bytes.take 4).length = 4 := by rw [written]; simp [ofUInt32]
    have enough : 4 ≤ bytes.length := by
      rw [List.length_take] at four
      omega
    simp only [word32?, enough, if_true, Option.some.injEq, written]
    rw [ofUInt32, value_littleEndian, Nat.mod_eq_of_lt small, UInt32.ofNat_toNat]

/-- Reading back the four bytes of a word gives the word. -/
theorem ofNat_value_ofUInt32 (word : UInt32) : UInt32.ofNat (value (ofUInt32 word)) = word := by
  -- A word fits four bytes, so its number is written in full.
  have small : word.toNat < 256 ^ 4 := word.toNat_lt
  rw [ofUInt32, value_littleEndian, Nat.mod_eq_of_lt small, UInt32.ofNat_toNat]

/-- Writing the number of four bytes as a word gives the bytes back. -/
theorem ofUInt32_ofNat_value {bytes : Bytes} (four : bytes.length = 4) :
    ofUInt32 (UInt32.ofNat (value bytes)) = bytes := by
  have bound : value bytes < 2 ^ 32 := by simpa [four] using value_lt bytes
  -- Four bytes stand for a number that fits the word, so nothing is cut off.
  rw [ofUInt32, UInt32.toNat_ofNat_of_lt' bound]
  simpa [four] using littleEndian_value bytes

/-- Reading back the eight bytes of a word gives the word. -/
theorem word64_ofUInt64 (word : UInt64) : word64 (ofUInt64 word) = word := by
  -- A word fits eight bytes, so its number is written in full.
  have small : word.toNat < 256 ^ 8 := word.toNat_lt
  rw [word64, ofUInt64, value_littleEndian, Nat.mod_eq_of_lt small, UInt64.ofNat_toNat]

/-- The number of eight bytes fits a word. -/
theorem toNat_word64 {bytes : Bytes} (eight : bytes.length = 8) :
    (word64 bytes).toNat = value bytes := by
  -- Eight bytes make no number that a word cannot hold.
  have bound : value bytes < 2 ^ 64 := by simpa [eight] using value_lt bytes
  rw [word64, UInt64.toNat_ofNat_of_lt' bound]

/-- Writing the word that eight bytes stand for gives the bytes back. -/
theorem ofUInt64_word64 {bytes : Bytes} (eight : bytes.length = 8) :
    ofUInt64 (word64 bytes) = bytes := by
  -- Nothing is cut off, so the number leads back to the eight bytes.
  rw [ofUInt64, toNat_word64 eight]
  simpa [eight] using littleEndian_value bytes

end Bytes

namespace FixedBytes

/-- A block in the middle of a byte string is what the slice at its place holds. -/
theorem slice_middle {size : Nat} (front : Bytes) (block : FixedBytes size) (back : Bytes)
    {start : Nat} (place : front.length = start)
    (within : start + size ≤ (front ++ block.toList ++ back).length) :
    slice (front ++ block.toList ++ back) start size within = block := by
  -- The bytes in front are dropped, and the block is all that is taken of the rest.
  apply FixedBytes.ext
  simp [slice, ← place, List.append_assoc, ← block.length_toList]

end FixedBytes

end CallGate
