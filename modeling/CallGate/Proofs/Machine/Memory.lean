import CallGate.Machine.Swap
import CallGate.Proofs.Bytes

/-! Words in memory: what is stored is read back, and stretches of bytes that share none do not
disturb each other. -/

namespace CallGate.Machine

/-- Two stretches of bytes in memory share none. Addresses wrap around. -/
def Apart (start : UInt64) (length : Nat) (other : UInt64) (otherLength : Nat) : Prop :=
  ∀ place < length, ∀ otherPlace < otherLength,
    start + UInt64.ofNat place ≠ other + UInt64.ofNat otherPlace

/-- Going on and then on again is going on at once. -/
theorem add_ofNat_add_ofNat (start : UInt64) (place further : Nat) :
    start + UInt64.ofNat place + UInt64.ofNat further = start + UInt64.ofNat (place + further) := by
  -- Addition of 64-bit numbers wraps, and still is associative.
  rw [UInt64.ofNat_add, UInt64.add_assoc]

/-- The distance to a place leads there. -/
theorem add_distance (start place : UInt64) :
    start + UInt64.ofNat (place - start).toNat = place := by
  -- Subtracting may wrap, and adding then wraps back.
  rw [UInt64.ofNat_toNat, UInt64.add_comm, UInt64.sub_add_cancel]

namespace Apart

variable {start other : UInt64} {length otherLength : Nat}

/-- Sharing no byte goes both ways. -/
theorem symm (apart : Apart start length other otherLength) :
    Apart other otherLength start length :=
  fun otherPlace early place within same => apart place within otherPlace early same.symm

/-- Parts of stretches that share no byte share none. -/
theorem within (apart : Apart start length other otherLength)
    {place width otherPlace otherWidth : Nat}
    (inside : place + width ≤ length) (otherInside : otherPlace + otherWidth ≤ otherLength) :
    Apart (start + UInt64.ofNat place) width (other + UInt64.ofNat otherPlace) otherWidth := by
  -- Steps within the parts are steps within the whole stretches.
  intro step early otherStep otherEarly
  rw [add_ofNat_add_ofNat, add_ofNat_add_ofNat]
  exact apart (place + step) (by omega) (otherPlace + otherStep) (by omega)

/-- Parts of one stretch that lie one behind the other share no byte. -/
theorem behind (start : UInt64) {place width next nextWidth : Nat} (order : place + width ≤ next)
    (fits : next + nextWidth ≤ UInt64.size) :
    Apart (start + UInt64.ofNat place) width (start + UInt64.ofNat next) nextWidth := by
  intro step early nextStep nextEarly same
  rw [add_ofNat_add_ofNat, add_ofNat_add_ofNat, UInt64.add_right_inj] at same
  -- Neither distance from the start wraps around.
  have distances := congrArg UInt64.toNat same
  rw [UInt64.toNat_ofNat_of_lt' (by omega), UInt64.toNat_ofNat_of_lt' (by omega)] at distances
  omega

/-- A place apart from a stretch is no step of the way through it. -/
theorem le_distance {place : UInt64} (apart : Apart place 1 start length) :
    length ≤ (place - start).toNat := by
  -- Were the distance smaller, the place would be that step of the way.
  apply Nat.le_of_not_lt
  intro near
  apply apart 0 Nat.one_pos (place - start).toNat near
  rw [add_distance]
  exact UInt64.add_zero place

end Apart

namespace Processor

/-- A stretch of memory as a block. -/
def block (processor : Processor) (address : UInt64) (size : Nat) : FixedBytes size :=
  ⟨(List.range size).map fun place => processor.memory (address + UInt64.ofNat place), by simp⟩

/-- The same processor with another byte at one place of its memory. -/
def poke (processor : Processor) (place : UInt64) (byte : UInt8) : Processor :=
  { processor with
    memory := fun other => if other = place then byte else processor.memory other }

section Poke

variable (processor : Processor) (place : UInt64) (byte : UInt8)

/-- A byte that is what it was before changes nothing. -/
@[simp] theorem poke_self : processor.poke place (processor.memory place) = processor := by
  -- The memory is compared place by place, of which only one was written.
  have memory : (fun other => if other = place then processor.memory place
      else processor.memory other) = processor.memory := by
    funext other
    by_cases here : other = place
    · rw [if_pos here, here]
    · rw [if_neg here]
  rw [poke, memory]

variable {processor place}

/-- A word does not depend on bytes apart from it. -/
theorem word_poke {address : UInt64} (apart : Apart place 1 address 8) :
    (processor.poke place byte).word address = processor.word address := by
  -- The eight bytes of the word are read elsewhere.
  unfold word
  congr 1
  apply List.map_congr_left
  intro step listed
  have elsewhere : address + UInt64.ofNat step ≠ place := by
    intro same
    apply apart 0 Nat.one_pos step (List.mem_range.mp listed)
    simp [same]
  simp [poke, elsewhere]

/-- Storing a word leaves bytes apart from it alone. -/
theorem storeWord_poke {address : UInt64} (value : UInt64) (apart : Apart place 1 address 8) :
    (processor.poke place byte).storeWord address value =
      (processor.storeWord address value).poke place byte := by
  -- Both memories are compared place by place.
  have far := apart.le_distance
  simp only [storeWord, poke]
  congr 1
  funext other
  by_cases here : other = place
  · -- The byte itself is too far away to be one of the word.
    rw [if_pos here, here, if_neg (by omega)]
    simp
  · rw [if_neg here, if_neg here]

/-- Pushing a word leaves bytes apart from it alone. -/
theorem pushValue_poke (value : UInt64) (apart : Apart place 1 (processor.stackPointer - 8) 8) :
    (processor.poke place byte).pushValue value =
      (processor.pushValue value).poke place byte :=
  -- Moving the stack pointer leaves the memory as it is.
  @storeWord_poke { processor with stackPointer := processor.stackPointer - 8 } _ byte _ value apart

end Poke

variable (processor : Processor)

/-- A word that was stored is read back. -/
@[simp] theorem word_storeWord (address value : UInt64) :
    (processor.storeWord address value).word address = value := by
  -- Of the stretch that was written, each byte is read back at its distance from the start.
  have bytes : (List.range 8).map (fun step =>
      (processor.storeWord address value).memory (address + UInt64.ofNat step)) =
      Bytes.ofUInt64 value := by
    apply List.ext_getElem
    · simp [Bytes.ofUInt64]
    · intro step early _
      have near : step < 8 := by simpa using early
      have distance : (address + UInt64.ofNat step - address).toNat = step := by
        rw [UInt64.add_comm, UInt64.add_sub_cancel,
          UInt64.toNat_ofNat_of_lt' (Nat.lt_trans near (by decide))]
      have within : step < (Bytes.ofUInt64 value).length := by simpa [Bytes.ofUInt64] using near
      rw [List.getElem_map, List.getElem_range]
      simp only [storeWord]
      rw [distance, if_pos near]
      simp [within]
  rw [word, bytes, Bytes.word64_ofUInt64]

/-- Storing a word leaves words apart from it alone. -/
theorem word_storeWord_of_apart {address other : UInt64} (value : UInt64)
    (apart : Apart other 8 address 8) :
    (processor.storeWord address value).word other = processor.word other := by
  -- Each byte of the other word is farther from the address than the eight that were written.
  unfold word
  congr 1
  apply List.map_congr_left
  intro step listed
  have far : 8 ≤ (other + UInt64.ofNat step - address).toNat := by
    apply Nat.le_of_not_lt
    intro near
    apply apart step (List.mem_range.mp listed) _ near
    rw [add_distance]
  simp only [storeWord]
  rw [if_neg (by omega)]

/-- Words are what their bytes are. -/
theorem word_congr {processor other : Processor} {address : UInt64}
    (same : ∀ step < 8, processor.memory (address + UInt64.ofNat step) =
      other.memory (address + UInt64.ofNat step)) :
    processor.word address = other.word address := by
  -- A word is read off eight bytes, and those agree.
  unfold word
  congr 1
  apply List.map_congr_left
  intro step listed
  exact same step (List.mem_range.mp listed)

end Processor

end CallGate.Machine
