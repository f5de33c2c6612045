import CallGate.Proofs.Bytes
import CallGate.Register

/-! Register files are read back from the bytes they are written as. -/

namespace CallGate

/-- Stretches of one width lie one behind the other, each at its multiple of the width. -/
theorem take_drop_flatMap {α β : Type} {width : Nat} {stretch : α → List β}
    (even : ∀ item, (stretch item).length = width) {items : List α} {place : Nat} {item : α}
    (there : items[place]? = some item) :
    ((items.flatMap stretch).drop (width * place)).take width = stretch item := by
  -- The induction goes along the list, and every stretch that is passed takes one off the place.
  induction items generalizing place with
  | nil => simp at there
  | cons first rest ih =>
    rw [List.flatMap_cons]
    cases place with
    | zero =>
      have same : first = item := by simpa using there
      rw [Nat.mul_zero, List.drop_zero, ← even first, List.take_left, same]
    | succ place =>
      -- The first stretch is skipped as a whole.
      have past : width * (place + 1) = (stretch first).length + width * place := by
        rw [even first, Nat.mul_succ]
        omega
      rw [past, ← List.drop_drop, List.drop_left]
      exact ih (by simpa using there)

/-- Stretches of one width that are cut one behind the other make up what they are cut from. -/
theorem flatMap_take_drop {α : Type} (items : List α) (width count : Nat) :
    ((List.range count).flatMap fun place => (items.drop (width * place)).take width) =
      items.take (width * count) := by
  -- Each further stretch continues where those before it end.
  induction count with
  | zero => simp
  | succ count ih =>
    rw [List.range_succ, List.flatMap_append, ih, Nat.mul_succ, List.take_add]
    simp

namespace Slot

/-- The place of a slot in layout order, from zero. -/
def place : Slot → Nat
  | general register => register.index
  | flags => 15
  | token => 16

/-- The slots lie in the order of their places. -/
theorem all_place (slot : Slot) : all[slot.place]? = some slot := by
  cases slot with
  -- Each of the seventeen slots is looked up.
  | general register => cases register <;> rfl
  | flags => rfl
  | token => rfl

/-- There are seventeen slots. -/
theorem place_lt (slot : Slot) : slot.place < 17 :=
  -- A place that has a slot is one of the list.
  (List.getElem?_eq_some_iff.mp slot.all_place).1

/-- Every slot starts after as many words as there are slots before it. -/
theorem offset_eq (slot : Slot) : slot.offset = 8 * slot.place := by
  -- The offsets are listed beside the slots, and each is eight times the place.
  cases slot with
  | general register => rfl
  | flags => rfl
  | token => rfl

/-- The places of the slots in layout order are the numbers below seventeen. -/
theorem map_place : all.map place = List.range 17 := rfl

end Slot

namespace RegisterFile

/-- A register file is nothing but what its slots hold. -/
theorem eq_of_read {file other : RegisterFile} (same : ∀ slot, file.read slot = other.read slot) :
    file = other := by
  -- A file is made again from what is read of its slots.
  rw [← ofSlots_read file, funext same, ofSlots_read]

/-- The register file with another token. -/
def withToken (file : RegisterFile) (token : UInt64) : RegisterFile := { file with token }

/-- Replacing the token leaves the registers. -/
@[simp] theorem get_withToken (file : RegisterFile) (token : UInt64) (register : Register) :
    (file.withToken token).get register = file.get register := by
  -- The token is not among the registers that are looked up.
  cases register <;> rfl

/-- Replacing the token leaves the flags. -/
@[simp] theorem rflags_withToken (file : RegisterFile) (token : UInt64) :
    (file.withToken token).rflags = file.rflags := rfl

/-- The token is the one that replaced it. -/
@[simp] theorem token_withToken (file : RegisterFile) (token : UInt64) :
    (file.withToken token).token = token := rfl

/-- The last token that was put in counts. -/
@[simp] theorem withToken_withToken (file : RegisterFile) (token other : UInt64) :
    (file.withToken token).withToken other = file.withToken other := rfl

/-- A register file has its own token. -/
@[simp] theorem withToken_token (file : RegisterFile) : file.withToken file.token = file := rfl

/-- Setting a register and replacing the token can be done in either order. -/
@[simp] theorem set_withToken (file : RegisterFile) (token : UInt64) (register : Register)
    (value : UInt64) :
    (file.withToken token).set register value = (file.set register value).withToken token := by
  -- None of the fifteen registers is the token, so the two changes do not meet.
  cases register <;> rfl

/-- A register file is its general registers, its flags and its token. -/
theorem eq_withToken {file other : RegisterFile} {token : UInt64}
    (registers : ∀ register, file.get register = other.get register)
    (flags : file.rflags = other.rflags) (same : file.token = token) :
    file = other.withToken token := by
  -- Each slot is a register, the flags or the token, so all of them are the same.
  apply eq_of_read
  intro slot
  cases slot with
  | general register => exact (registers register).trans (other.get_withToken token register).symm
  | flags => exact flags
  | token => exact same

/-- A register file that was written is read back. -/
@[simp] theorem ofBytes_toBytes (file : RegisterFile) : ofBytes file.toBytes = file := by
  -- Every slot is written as one word, so reading at its offset finds that word again.
  have word (slot : Slot) :
      Bytes.word64 ((file.toBytes.toList.drop slot.offset).take 8) = file.read slot := by
    rw [Slot.offset_eq, toBytes, take_drop_flatMap (fun _ => by simp [Bytes.ofUInt64])
      slot.all_place, Bytes.word64_ofUInt64]
  rw [ofBytes, funext word, ofSlots_read]

/-- Writing what a wire block stands for gives the block back. -/
@[simp] theorem toBytes_ofBytes (block : FixedBytes size) : (ofBytes block).toBytes = block := by
  have length : block.toList.length = 8 * 17 := block.length_toList
  -- Every slot is written as the eight bytes it was read from, since these are all there.
  have word (slot : Slot) : Bytes.ofUInt64 ((ofBytes block).read slot) =
      (block.toList.drop (8 * slot.place)).take 8 := by
    have early := slot.place_lt
    have eight : ((block.toList.drop slot.offset).take 8).length = 8 := by
      rw [List.length_take, List.length_drop, length, slot.offset_eq]
      omega
    rw [ofBytes, read_ofSlots, Bytes.ofUInt64_word64 eight, slot.offset_eq]
  apply FixedBytes.ext
  -- The stretches of all slots follow each other without a gap, up to the end of the block.
  calc Slot.all.flatMap (fun slot => Bytes.ofUInt64 ((ofBytes block).read slot))
    _ = Slot.all.flatMap (fun slot => (block.toList.drop (8 * slot.place)).take 8) :=
      by rw [funext word]
    _ = (Slot.all.map Slot.place).flatMap (fun place => (block.toList.drop (8 * place)).take 8) :=
      (List.flatMap_map ..).symm
    _ = block.toList := by
      rw [Slot.map_place, flatMap_take_drop, List.take_of_length_le (Nat.le_of_eq length)]

/-- The token is the number of the last eight bytes. -/
theorem toNat_token_ofBytes (block : FixedBytes size) :
    (ofBytes block).token.toNat = Bytes.value (block.toList.drop 128) := by
  have eight : (block.toList.drop 128).length = 8 := by simp [block.length_toList, size]
  -- The token is the last of seventeen words, so nothing follows its eight bytes.
  have whole : (block.toList.drop Slot.token.offset).take 8 = block.toList.drop 128 :=
    List.take_of_length_le (Nat.le_of_eq eight)
  have token : (ofBytes block).token =
      Bytes.word64 ((block.toList.drop Slot.token.offset).take 8) := rfl
  rw [token, whole, Bytes.toNat_word64 eight]

end RegisterFile

end CallGate
