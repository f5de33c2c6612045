import CallGate.Proofs.Bytes
import Mathlib.Logic.Function.Basic

/-! What hashes and ciphers have in common: words that are rotated by two shifts, and states in which
four words are mixed at a time. -/

namespace CallGate.Words

section Rotations

variable {width : Nat} (word : BitVec width) {amount : BitVec width}

/-- An amount below the width of a word is not cut down. -/
theorem toNat_umod_width (few : amount.toNat < width) :
    (amount % BitVec.ofNat width width).toNat = amount.toNat := by
  -- A word can hold its own width.
  rw [BitVec.toNat_umod, BitVec.toNat_ofNat, Nat.mod_eq_of_lt Nat.lt_two_pow_self]
  exact Nat.mod_eq_of_lt few

/-- Nor is what is left of the width, unless that is all of it. -/
theorem toNat_sub_umod_width (turned : 0 < amount.toNat) (few : amount.toNat < width) :
    ((BitVec.ofNat width width - amount) % BitVec.ofNat width width).toNat =
      width - amount.toNat := by
  have whole : (BitVec.ofNat width width).toNat = width := by
    rw [BitVec.toNat_ofNat, Nat.mod_eq_of_lt Nat.lt_two_pow_self]
  have within : amount ≤ BitVec.ofNat width width := by
    rw [BitVec.le_def, whole]
    exact Nat.le_of_lt few
  have left : (BitVec.ofNat width width - amount).toNat = width - amount.toNat := by
    rw [BitVec.toNat_sub_of_le within, whole]
  rw [toNat_umod_width (by omega), left]

/-- A word is rotated to the right by shifting it there, and back by what is left of its width. -/
theorem or_shifts_eq_rotateRight (turned : 0 < amount.toNat) (few : amount.toNat < width) :
    word >>> (amount % BitVec.ofNat width width) |||
        word <<< ((BitVec.ofNat width width - amount) % BitVec.ofNat width width) =
      word.rotateRight amount.toNat := by
  -- Neither amount is cut down, so both are those of the rotation.
  rw [BitVec.rotateRight_def, Nat.mod_eq_of_lt few, BitVec.ushiftRight_eq', BitVec.shiftLeft_eq',
    toNat_umod_width few, toNat_sub_umod_width turned few]

/-- A word is rotated to the left by shifting it there, and back by what is left of its width. -/
theorem or_shifts_eq_rotateLeft (turned : 0 < amount.toNat) (few : amount.toNat < width) :
    word <<< (amount % BitVec.ofNat width width) |||
        word >>> ((BitVec.ofNat width width - amount) % BitVec.ofNat width width) =
      word.rotateLeft amount.toNat := by
  -- Neither amount is cut down here either.
  rw [BitVec.rotateLeft_def, Nat.mod_eq_of_lt few, BitVec.ushiftRight_eq', BitVec.shiftLeft_eq',
    toNat_umod_width few, toNat_sub_umod_width turned few]

end Rotations

/-- Writing a word changes what is read at its place, and nothing else. -/
theorem get_set {Word : Type} {count : Nat} (words : Vector Word count) (place : Fin count)
    (word : Word) : (words.set place word).get = Function.update words.get place word := by
  have read (words : Vector Word count) (place : Fin count) : words.get place = words[place.val] :=
    rfl
  funext other
  -- Both sides ask whether it is the written place that is read.
  rw [read, Vector.getElem_set, Function.update_apply]
  simp only [Fin.ext_iff, read, @eq_comm Nat other.val]

section Mixing

variable {Word Place : Type} [DecidableEq Place]

/-- Mixes the words at four places in turn, each one with the word that was mixed before it. -/
def stir (atA atD atC atB : Word → Word → Word) (a b c d : Place) (words : Place → Word) :
    Place → Word :=
  let words := Function.update words a (atA (words a) (words b))
  let words := Function.update words d (atD (words d) (words a))
  let words := Function.update words c (atC (words c) (words d))
  Function.update words b (atB (words b) (words c))

/-- The words at the four places, in the order of mixing. -/
structure Stirred (atA atD atC atB : Word → Word → Word) (a b c d : Place)
    (words after : Place → Word) : Prop where
  first : after a = atA (words a) (words b)
  second : after d = atD (words d) (after a)
  third : after c = atC (words c) (after d)
  fourth : after b = atB (words b) (after c)

variable (atA atD atC atB : Word → Word → Word) {a b c d : Place} (words : Place → Word)

/-- Every word is read back from the one step that wrote it. -/
theorem stirred_stir (apart : [a, b, c, d].Nodup) :
    Stirred atA atD atC atB a b c d words (stir atA atD atC atB a b c d words) := by
  -- That the places differ is needed for each two of them.
  simp only [List.nodup_cons, List.mem_cons, List.not_mem_nil, or_false, not_or] at apart
  obtain ⟨⟨ab, ac, ad⟩, ⟨bc, bd⟩, cd, -, -⟩ := apart
  constructor <;>
    simp only [stir, Function.update_self, Function.update_of_ne, ne_eq, ab, ac, ad, bc, bd, cd,
      Ne.symm ab, Ne.symm ac, Ne.symm ad, Ne.symm bc, Ne.symm bd, Ne.symm cd, not_false_eq_true]

/-- All other words stay as they are. -/
theorem stir_of_apart {place : Place} (apart : place ∉ [a, b, c, d]) :
    stir atA atD atC atB a b c d words place = words place := by
  -- The place differs from each of the four.
  simp only [List.mem_cons, List.not_mem_nil, or_false, not_or] at apart
  obtain ⟨notA, notB, notC, notD⟩ := apart
  simp only [stir, Function.update_of_ne, ne_eq, notA, notB, notC, notD, not_false_eq_true]

end Mixing

end CallGate.Words
