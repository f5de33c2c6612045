import CallGate.Proofs.Machine.Memory
import CallGate.Proofs.Register

/-! The words of memory that the exchange routine works on, and what a processor shows of them. -/

namespace CallGate.Machine.Swap

/-- Where the register file and the routine's part of the stack lie. -/
structure Layout where
  /-- The start of the register file. -/
  file : UInt64
  /-- The last word of the stack that the routine uses. The stack grows down to it. -/
  bottom : UInt64
  /-- The register file lies apart from the five words of the stack. -/
  apart : Apart file RegisterFile.size bottom 40

/-- Where a slot of the register file starts. -/
def Layout.slot (layout : Layout) (slot : Slot) : UInt64 :=
  layout.file + UInt64.ofNat slot.offset

/-- The words the routine works on: every slot of the register file but that of the token, and the
words of the stack, counted from the bottom. -/
inductive Cell where
  | register (held : Register)
  | flags
  | stack (place : Fin 5)
  deriving DecidableEq

/-- Where a word starts. -/
def Cell.address (layout : Layout) : Cell → UInt64
  | .register held => layout.slot (.general held)
  | .flags => layout.slot .flags
  | .stack place => layout.bottom + UInt64.ofNat (8 * place.val)

/-- A place in memory that belongs to none of these words. -/
def Layout.Spares (layout : Layout) (place : UInt64) : Prop :=
  ∀ cell : Cell, Apart place 1 (cell.address layout) 8

namespace Layout

/-- Slots start at different places of the register file. -/
theorem eq_of_place {slot other : Slot} (same : slot.place = other.place) : slot = other := by
  -- The list of all slots has each at its place, so the place leads back to the slot.
  have first := slot.all_place
  rw [same, other.all_place] at first
  exact (Option.some.inj first).symm

/-- Different slots share no byte. -/
theorem apart_slots (layout : Layout) {slot other : Slot} (different : slot ≠ other) :
    Apart (layout.slot slot) 8 (layout.slot other) 8 := by
  -- Places are counted in words of eight bytes, so different ones are eight bytes apart.
  have places : slot.place ≠ other.place := fun same => different (eq_of_place same)
  have bound := slot.place_lt
  have otherBound := other.place_lt
  simp only [Layout.slot, Slot.offset_eq]
  -- One of them lies behind the other.
  rcases Nat.lt_or_gt_of_ne places with before | after
  · exact .behind layout.file (by omega) (by simp [UInt64.size]; omega)
  · exact (Apart.behind layout.file (by omega) (by simp [UInt64.size]; omega)).symm

/-- No slot shares a byte with the stack. -/
theorem apart_stack (layout : Layout) (slot : Slot) (place : Fin 5) :
    Apart (layout.slot slot) 8 ((Cell.stack place).address layout) 8 := by
  -- The slot lies within the register file and the word within the stack, and these are apart.
  have bound := slot.place_lt
  rw [Layout.slot, Slot.offset_eq]
  have inside : 8 * slot.place + 8 ≤ RegisterFile.size := by
    rw [RegisterFile.size]
    omega
  have above : 8 * place.val + 8 ≤ 40 := by omega
  exact layout.apart.within inside above

/-- Different words of the stack share no byte. -/
theorem apart_places (layout : Layout) {place other : Fin 5} (different : place ≠ other) :
    Apart ((Cell.stack place).address layout) 8 ((Cell.stack other).address layout) 8 := by
  -- As in the register file, one of the two words lies eight bytes or more behind the other.
  have places : place.val ≠ other.val := Fin.val_ne_of_ne different
  have fits (place : Fin 5) : 8 * place.val + 8 ≤ UInt64.size := by
    simp only [UInt64.size]
    omega
  rcases Nat.lt_or_gt_of_ne places with before | after
  · exact .behind layout.bottom (by omega) (fits other)
  · exact (Apart.behind layout.bottom (by omega) (fits place)).symm

/-- The words the routine works on share no byte with each other. -/
theorem apart_cells (layout : Layout) {cell other : Cell} (different : cell ≠ other) :
    Apart (cell.address layout) 8 (other.address layout) 8 := by
  -- Registers and flags are slots, so there are three sorts of pairs: two slots, a slot and a word
  -- of the stack, and two words of the stack.
  cases cell with
  | register held =>
    cases other with
    | register other =>
      exact layout.apart_slots fun same => different (congrArg _ (Slot.general.inj same))
    | flags => exact layout.apart_slots Slot.noConfusion
    | stack place => exact layout.apart_stack (.general held) place
  | flags =>
    cases other with
    | register other => exact layout.apart_slots Slot.noConfusion
    | flags => exact absurd rfl different
    | stack place => exact layout.apart_stack .flags place
  | stack place =>
    cases other with
    | register other => exact (layout.apart_stack (.general other) place).symm
    | flags => exact (layout.apart_stack .flags place).symm
    | stack other => exact layout.apart_places fun same => different (congrArg _ same)

/-- The routine works on no byte of the token. -/
theorem spares_token (layout : Layout) {step : Nat} (early : step < 8) :
    layout.Spares (layout.slot .token + UInt64.ofNat step) := by
  -- The token is a slot that no word of the routine is, so its eight bytes are apart from them.
  have bytes (cell : Cell) : Apart (layout.slot .token) 8 (cell.address layout) 8 := by
    cases cell with
    | register held => exact layout.apart_slots Slot.noConfusion
    | flags => exact layout.apart_slots Slot.noConfusion
    | stack place => exact layout.apart_stack .token place
  -- A single byte of the token is apart because all eight of them are.
  intro cell
  have byte : Apart (layout.slot .token + UInt64.ofNat step) 1
      (cell.address layout + UInt64.ofNat 0) 8 := (bytes cell).within (by omega) (by omega)
  simpa using byte

end Layout

/-- What the routine can know of a processor: the registers, the flags, how far the stack pointer is
from the bottom, and the words it works on. -/
@[ext] structure View where
  registers : Register → UInt64
  flags : UInt64
  /-- The number of words between the bottom and the top of the stack. -/
  depth : Nat
  cells : Cell → UInt64

namespace View

/-- Replaces one register. -/
def setRegister (view : View) (register : Register) (value : UInt64) : View :=
  { view with registers := fun other => if other = register then value else view.registers other }

/-- Replaces one word. -/
def setCell (view : View) (cell : Cell) (value : UInt64) : View :=
  { view with cells := fun other => if other = cell then value else view.cells other }

/-- Puts a word on the stack, which is then at this place. -/
def push (view : View) (place : Fin 5) (value : UInt64) : View :=
  { view with depth := place }.setCell (.stack place) value

/-- Takes a word off the stack. -/
def pop (view : View) : View := { view with depth := view.depth + 1 }

end View

variable {layout : Layout} {processor : Processor} {view : View}

/-- A processor is in a state that looks like this. -/
structure Shows (layout : Layout) (processor : Processor) (view : View) : Prop where
  registers : processor.registers = view.registers
  flags : processor.flags = view.flags
  stackPointer : processor.stackPointer = layout.bottom + UInt64.ofNat (8 * view.depth)
  cells (cell : Cell) : processor.word (cell.address layout) = view.cells cell

namespace Shows

/-- Replacing a register shows in it alone. -/
theorem setRegister (shows : Shows layout processor view) (register : Register) (value : UInt64) :
    Shows layout (processor.setRegister register value) (view.setRegister register value) where
  registers := by rw [Processor.setRegister, View.setRegister, shows.registers]
  flags := shows.flags
  stackPointer := shows.stackPointer
  cells := shows.cells

/-- Storing a word shows in it alone. -/
theorem storeWord (shows : Shows layout processor view) (cell : Cell) (value : UInt64) :
    Shows layout (processor.storeWord (cell.address layout) value) (view.setCell cell value) where
  registers := shows.registers
  flags := shows.flags
  stackPointer := shows.stackPointer
  cells other := by
    -- The word that was stored is read back, and all others are apart from it.
    simp only [View.setCell]
    by_cases same : other = cell
    · rw [if_pos same, same, Processor.word_storeWord]
    · rw [if_neg same, Processor.word_storeWord_of_apart _ value (layout.apart_cells same),
        shows.cells]

/-- The word below the top of the stack is the next one to be pushed. -/
theorem below (shows : Shows layout processor view) {place : Fin 5}
    (depth : view.depth = place + 1) :
    processor.stackPointer - 8 = (Cell.stack place).address layout := by
  -- Going up by a word from the cell below leads to the stack pointer.
  have up : (Cell.stack place).address layout + 8 = processor.stackPointer := by
    rw [shows.stackPointer, depth, Cell.address, Nat.mul_succ]
    exact add_ofNat_add_ofNat ..
  rw [← up, UInt64.add_sub_cancel]

/-- The top of the stack is one of its words. -/
theorem top (shows : Shows layout processor view) {place : Fin 5} (depth : view.depth = place) :
    processor.stackPointer = (Cell.stack place).address layout := by
  rw [shows.stackPointer, depth, Cell.address]

/-- Pushing a word makes it the top of the stack. -/
theorem pushValue (shows : Shows layout processor view) {place : Fin 5}
    (depth : view.depth = place + 1) (value : UInt64) :
    Shows layout (processor.pushValue value) (view.push place value) := by
  -- The stack pointer moves first, which shows in the depth alone.
  have moved : Shows layout { processor with stackPointer := processor.stackPointer - 8 }
      { view with depth := place } :=
    ⟨shows.registers, shows.flags, shows.below depth, shows.cells⟩
  rw [Processor.pushValue, shows.below depth]
  rw [shows.below depth] at moved
  exact moved.storeWord (.stack place) value

/-- What is popped is the top of the stack. -/
theorem popValue_fst (shows : Shows layout processor view) {place : Fin 5}
    (depth : view.depth = place) : processor.popValue.1 = view.cells (.stack place) := by
  -- The stack pointer is where the top of the stack is, and a view knows the word there.
  rw [Processor.popValue, shows.top depth, shows.cells]

/-- Popping leaves all else as it is. -/
theorem popValue_snd (shows : Shows layout processor view) :
    Shows layout processor.popValue.2 view.pop where
  registers := shows.registers
  flags := shows.flags
  stackPointer := by
    -- One word less lies above the stack pointer than before.
    rw [View.pop, Nat.mul_succ, ← add_ofNat_add_ofNat, ← shows.stackPointer]
    rfl
  cells := shows.cells

end Shows

/-- A byte that belongs to none of the words does not show. -/
theorem Shows.poke (shows : Shows layout processor view) {place : UInt64}
    (spared : layout.Spares place) (byte : UInt8) :
    Shows layout (processor.poke place byte) view where
  registers := shows.registers
  flags := shows.flags
  stackPointer := shows.stackPointer
  -- Every word the view knows is apart from the byte.
  cells cell := by rw [Processor.word_poke byte (spared cell), shows.cells]

/-- An operand in memory is one of the words. -/
def Finds (layout : Layout) (view : View) (operand : Place) (cell : Cell) : Prop :=
  (match operand.base with
    | some register => view.registers register
    | none => layout.bottom + UInt64.ofNat (8 * view.depth)) + operand.displacement =
  cell.address layout

/-- An operand that is a word is so for every processor that looks like this. -/
theorem Shows.address (shows : Shows layout processor view) {operand : Place} {cell : Cell}
    (finds : Finds layout view operand cell) :
    processor.address operand = cell.address layout := by
  -- An operand is found from the stack pointer or from a register, and the view knows both.
  rw [← finds, Processor.address]
  cases operand.base with
  | none => simp only [shows.stackPointer]
  | some register => simp only [shows.registers]

/-- While `rax` points to the register file, the slots of the registers are found. -/
theorem finds_register (pointer : view.registers .rax = layout.file) (register : Register) :
    Finds layout view (slot (.general register)) (.register register) := by
  -- From the pointer to the file an operand goes on by the offset of the slot.
  simp [Finds, slot, pointer, Cell.address, Layout.slot]

/-- While `rax` points to the register file, the slot of the flags is found. -/
theorem finds_flags (pointer : view.registers .rax = layout.file) :
    Finds layout view (slot .flags) .flags := by
  simp [Finds, slot, pointer, Cell.address, Layout.slot]

/-- The words of the stack are found from the top. -/
theorem finds_stack (place : Fin 5) (above : Nat) (depth : view.depth + above = place) :
    Finds layout view (stack (UInt64.ofNat (8 * above))) (.stack place) := by
  -- The top is as many words above the bottom as the stack is deep, and the operand goes on from
  -- it.
  simp only [Finds, stack, Cell.address, ← depth, Nat.mul_add]
  exact add_ofNat_add_ofNat ..

end CallGate.Machine.Swap
