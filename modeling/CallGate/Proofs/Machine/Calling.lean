import CallGate.Proofs.Machine.Exchange

/-! The exchange routine runs a region on the register file in memory and leaves no other trace. -/

namespace CallGate.Machine.Swap

variable {layout : Layout} {view : View} {region : UInt64 → Processor → Processor}
  {returnAddress : UInt64}

/-- What a region has to see to. With the registers, the flags and all other memory it may do
whatever it likes. -/
structure Returns (file : UInt64) (arrival left : Processor) : Prop where
  /-- It takes its return address off the stack, and all else that it put there. -/
  balanced : left.stackPointer = arrival.stackPointer + 8
  /-- The four words of the stack above the return address are what they were. -/
  stack {step : Nat} (early : step < 32) :
    left.memory (arrival.stackPointer + 8 + UInt64.ofNat step) =
      arrival.memory (arrival.stackPointer + 8 + UInt64.ofNat step)
  /-- The register file in memory is what it was. -/
  file {step : Nat} (early : step < RegisterFile.size) :
    left.memory (file + UInt64.ofNat step) = arrival.memory (file + UInt64.ofNat step)

/-- The processor as the region leaves it. -/
def departure (region : UInt64 → Processor → Processor) (returnAddress : UInt64)
    (caller : Processor) : Processor :=
  region (caller.registers .rsi) (arrival caller returnAddress)

/-- The processor as the routine leaves it. -/
def finish (region : UInt64 → Processor → Processor) (returnAddress : UInt64)
    (caller : Processor) : Processor :=
  caller.steps region returnAddress routine

/-- The routine neither reads nor writes the byte at a place, before the call or after it. -/
def Untouched (region : UInt64 → Processor → Processor) (returnAddress : UInt64)
    (caller : Processor) (place : UInt64) : Prop :=
  ∀ byte, arrival (caller.poke place byte) returnAddress =
      (arrival caller returnAddress).poke place byte ∧
    ((departure region returnAddress caller).poke place byte).steps region returnAddress storing =
      ((departure region returnAddress caller).steps region returnAddress storing).poke place byte

/-- The routine does for a caller what the caller wants of it: it runs the region on the register
file in memory and leaves no other trace. -/
structure Performed (region : UInt64 → Processor → Processor) (returnAddress : UInt64)
    (caller : Processor) (file : UInt64) : Prop where
  /-- The region that `rsi` points to is entered once. -/
  entered : finish region returnAddress caller =
    (departure region returnAddress caller).steps region returnAddress storing
  /-- It finds its registers in the register file. -/
  loaded (register : Register) :
    (arrival caller returnAddress).registers register = (readFile caller file).get register
  /-- It finds its flags in the register file. -/
  loadedFlags : (arrival caller returnAddress).flags = (readFile caller file).rflags
  /-- It finds its return address on the stack. -/
  linked : (arrival caller returnAddress).word (arrival caller returnAddress).stackPointer =
    returnAddress
  /-- The register file holds the registers that it left. -/
  stored (register : Register) :
    (readFile (finish region returnAddress caller) file).get register =
      (departure region returnAddress caller).registers register
  /-- The register file holds the flags that it left. -/
  storedFlags : (readFile (finish region returnAddress caller) file).rflags =
    (departure region returnAddress caller).flags
  /-- The register file holds the token that it held. -/
  keptToken : (readFile (finish region returnAddress caller) file).token =
    (readFile caller file).token
  /-- The token is neither read nor written. -/
  untouchedToken {step : Nat} (early : step < 8) :
    Untouched region returnAddress caller
      (file + UInt64.ofNat Slot.token.offset + UInt64.ofNat step)
  /-- The caller's registers are what they were, but for three that it expects to be changed. -/
  restored {register : Register} (spared : register ∉ [.rax, .rcx, .rdx]) :
    (finish region returnAddress caller).registers register = caller.registers register
  /-- The caller's flags are what they were. -/
  restoredFlags : (finish region returnAddress caller).flags = caller.flags
  /-- The stack pointer is what it was before the caller pushed its own return address. -/
  restoredStack : (finish region returnAddress caller).stackPointer = caller.stackPointer + 8
  /-- That is the address the routine returned to. -/
  backed : (finish region returnAddress caller).word caller.stackPointer =
    caller.word caller.stackPointer
  /-- If the region computes what a behaviour does, the register file is what a rehearsal of this
  behaviour makes of it. -/
  rehearsed {ξ : Type} (behaviour : RegisterFile → ξ → RegisterFile × ξ)
    (rehearsal : Rehearsal ξ) (block : LockedBlock)
    (registers : ∀ register, (departure region returnAddress caller).registers register =
      (behaviour (readFile caller file) rehearsal.inner).1.get register)
    (flags : (departure region returnAddress caller).flags =
      (behaviour (readFile caller file) rehearsal.inner).1.rflags) :
    readFile (finish region returnAddress caller) file =
      ((Rehearsal.trampoline behaviour).enter block (readFile caller file) rehearsal).1

/-- What a processor shows once a region has returned. -/
def View.returned (view : View) (left : Processor) (below : UInt64) : View where
  registers := left.registers
  flags := left.flags
  depth := 1
  cells
    | .stack 0 => below
    | cell => view.cells cell

namespace Returns

variable {entered left : Processor}

/-- A region leaves the slots of the register file alone. -/
theorem word_slot (returns : Returns layout.file entered left) (slot : Slot) :
    left.word (layout.slot slot) = entered.word (layout.slot slot) := by
  -- A slot is within the 136 bytes that the region has promised to leave alone.
  apply Processor.word_congr
  intro step early
  have bound := slot.place_lt
  rw [Layout.slot, add_ofNat_add_ofNat, Slot.offset_eq]
  apply returns.file
  simp only [RegisterFile.size]
  omega

/-- A region leaves the words of the stack above its return address alone. -/
theorem word_stack (returns : Returns layout.file entered left)
    (bottom : entered.stackPointer = layout.bottom) {place : Fin 5} (above : place ≠ 0) :
    left.word ((Cell.stack place).address layout) =
      entered.word ((Cell.stack place).address layout) := by
  -- The promise is about bytes, so the word is compared byte by byte.
  apply Processor.word_congr
  intro step early
  have positive : 0 < place.val := Fin.pos_iff_ne_zero.mpr above
  -- Counted from the word above the bottom, there is one word less.
  have distance : (Cell.stack place).address layout + UInt64.ofNat step =
      entered.stackPointer + 8 + UInt64.ofNat (8 * (place.val - 1) + step) := by
    have eight : (8 : UInt64) = UInt64.ofNat 8 := rfl
    rw [bottom, eight, Cell.address, add_ofNat_add_ofNat, add_ofNat_add_ofNat]
    congr 2
    omega
  rw [distance]
  apply returns.stack
  omega

/-- What a processor shows after a region is the region's own, but for the words it left alone. -/
theorem shows (returns : Returns layout.file entered left) (shows : Shows layout entered view)
    (depth : view.depth = 0) :
    Shows layout left (view.returned left (left.word layout.bottom)) where
  registers := rfl
  flags := rfl
  -- The region took its return address off, which was the last of what lay on the stack.
  stackPointer := by
    rw [returns.balanced, shows.stackPointer, depth]
    exact add_ofNat_add_ofNat ..
  cells cell := by
    have bottom : entered.stackPointer = layout.bottom := by simp [shows.stackPointer, depth]
    -- What the region may write over is the word at the bottom, which the view takes from it.
    cases cell with
    | register held =>
      exact (returns.word_slot (.general held)).trans (shows.cells (.register held))
    | flags => exact (returns.word_slot .flags).trans (shows.cells .flags)
    | stack place =>
      exact match place with
        | 0 => by simp [View.returned, Cell.address]
        | 1 | 2 | 3 | 4 =>
          (returns.word_stack bottom (by decide)).trans (shows.cells (.stack _))

end Returns

/-- The word in a slot of the register file in memory. -/
theorem read_readFile (processor : Processor) (file : UInt64) (slot : Slot) :
    (readFile processor file).read slot = processor.word (file + UInt64.ofNat slot.offset) :=
  RegisterFile.read_ofSlots _ slot

/-- The register file in memory is what the bytes there stand for. -/
theorem readFile_eq_ofBytes (processor : Processor) (file : UInt64) :
    readFile processor file = .ofBytes (processor.block file RegisterFile.size) := by
  -- Both files are told apart slot by slot.
  apply RegisterFile.eq_of_read
  intro slot
  have bound := slot.place_lt
  -- The bytes at the offset of a slot are those that the word there is made of.
  have bytes : ((processor.block file RegisterFile.size).toList.drop slot.offset).take 8 =
      (List.range 8).map fun step =>
        processor.memory (file + UInt64.ofNat slot.offset + UInt64.ofNat step) := by
    apply List.ext_getElem
    · simp [Processor.block, RegisterFile.size, slot.offset_eq]
      omega
    · intro step _ _
      simp [Processor.block, add_ofNat_add_ofNat]
  rw [read_readFile, RegisterFile.ofBytes, RegisterFile.read_ofSlots, bytes]
  rfl

/-- The registers and the flags of a processor as a register file. -/
def held (processor : Processor) (token : UInt64) : RegisterFile :=
  .ofSlots fun
    | .general register => processor.registers register
    | .flags => processor.flags
    | .token => token

/-- A register of the file that a processor holds is the register of the processor. -/
@[simp] theorem get_held (processor : Processor) (token : UInt64) (register : Register) :
    (held processor token).get register = processor.registers register :=
  RegisterFile.read_ofSlots _ (.general register)

/-- The flags of the file that a processor holds are those of the processor. -/
@[simp] theorem rflags_held (processor : Processor) (token : UInt64) :
    (held processor token).rflags = processor.flags := rfl

/-- The token of the file that a processor holds is the one it is given. -/
@[simp] theorem token_held (processor : Processor) (token : UInt64) :
    (held processor token).token = token := rfl

/-- Where register file and stack lie when the routine is called. -/
def layoutOf (caller : Processor)
    (apart : Apart (caller.registers .rdi) RegisterFile.size (caller.stackPointer - 32) 40) :
    Layout :=
  ⟨caller.registers .rdi, caller.stackPointer - 32, apart⟩

/-- What a processor shows when the routine is called. -/
def View.ofCaller (layout : Layout) (caller : Processor) : View where
  registers := caller.registers
  flags := caller.flags
  depth := 4
  cells cell := caller.word (cell.address layout)

section Call

variable {caller : Processor}
  (apart : Apart (caller.registers .rdi) RegisterFile.size (caller.stackPointer - 32) 40)

/-- A caller shows what its registers and its memory hold. -/
theorem shows_caller :
    Shows (layoutOf caller apart) caller (.ofCaller (layoutOf caller apart) caller) where
  registers := rfl
  flags := rfl
  stackPointer := (UInt64.sub_add_cancel ..).symm
  cells _ := rfl

include apart in
/-- The routine enters the region that `rsi` points to, once. -/
theorem steps_routine (region : UInt64 → Processor → Processor) (returnAddress : UInt64) :
    caller.steps region returnAddress routine =
      (region (caller.registers .rsi) (arrival caller returnAddress)).steps region returnAddress
        storing := by
  -- Only the one call in the middle enters the region, so what comes before it ignores the region.
  have calm : ∀ step ∈ loading, calls step = false := by decide
  have shows : Shows (layoutOf caller apart)
      (caller.steps (fun _ processor => processor) returnAddress loading) _ :=
    (leads_loading rfl rfl).shows (shows_caller apart)
  -- The pointer that was pushed last is still on top of the stack.
  have finds : Finds (layoutOf caller apart) (View.ofCaller (layoutOf caller apart) caller).loaded
      (stack 0) (.stack 1) := finds_stack 1 0 rfl
  have entry := shows.cells (.stack 1)
  rw [← shows.address finds] at entry
  rw [routine_eq, Processor.steps_append, Processor.steps_call,
    steps_of_calm calm caller region (fun _ processor => processor), entry]
  rfl

variable
  (returns : Returns (caller.registers .rdi) (arrival caller returnAddress)
    (departure region returnAddress caller))

include returns in
/-- After the region, its caller's words are still there. -/
theorem shows_departure :
    Shows (layoutOf caller apart) (departure region returnAddress caller)
      (((View.ofCaller (layoutOf caller apart) caller).loaded.push 0 returnAddress).returned
        (departure region returnAddress caller)
        ((departure region returnAddress caller).word (caller.stackPointer - 32))) :=
  -- The routine has brought the processor as far as the arrival, and the region does the rest.
  have arrived := (leads_arrival rfl rfl).shows (shows_caller apart)
  (show Returns (layoutOf caller apart).file _ _ from returns).shows arrived rfl

include returns in
/-- In the end, the register file holds what the region left, and the caller has what was its. -/
theorem shows_finish :
    Shows (layoutOf caller apart) (finish region returnAddress caller)
      (((View.ofCaller (layoutOf caller apart) caller).loaded.push 0 returnAddress).returned
        (departure region returnAddress caller)
        ((departure region returnAddress caller).word (caller.stackPointer - 32))).stored := by
  -- The rest of the routine starts where the region returned.
  rw [finish, steps_routine apart]
  exact (leads_storing rfl rfl).shows (shows_departure apart returns)

include apart returns in
/-- The routine touches none of the bytes it does not work on. -/
theorem untouched {place : UInt64} (spared : (layoutOf caller apart).Spares place) :
    Untouched region returnAddress caller place := by
  intro byte
  -- What lies between the two halves is the region's affair.
  constructor
  · exact (leads_arrival rfl rfl).spares (shows_caller apart) spared byte
  · exact (leads_storing rfl rfl).spares (shows_departure apart returns) spared byte

include returns in
/-- The token is what it was. -/
theorem token_finish :
    (finish region returnAddress caller).word ((layoutOf caller apart).slot .token) =
      caller.word ((layoutOf caller apart).slot .token) := by
  apply Processor.word_congr
  intro step early
  -- Byte by byte: the routine does not work on the token, and the region leaves the file alone.
  have spared := (layoutOf caller apart).spares_token early
  have before : (arrival caller returnAddress).memory _ = caller.memory _ :=
    (leads_arrival rfl rfl).memory (shows_caller apart) spared
  have between : (departure region returnAddress caller).memory
      ((layoutOf caller apart).slot .token + UInt64.ofNat step) =
      (arrival caller returnAddress).memory
      ((layoutOf caller apart).slot .token + UInt64.ofNat step) := by
    rw [Layout.slot, add_ofNat_add_ofNat]
    apply returns.file
    simp only [Slot.offset, RegisterFile.size]
    omega
  rw [finish, steps_routine apart, ← before, ← between]
  exact (leads_storing rfl rfl).memory (shows_departure apart returns) spared

include apart in
/-- The region finds the register file in its registers and its flags. -/
theorem held_arrival (returnAddress token : UInt64) :
    held (arrival caller returnAddress) token =
      (readFile caller (caller.registers .rdi)).withToken token := by
  -- What the routine has loaded is known from the view, register by register.
  have arrived : Shows (layoutOf caller apart) (arrival caller returnAddress) _ :=
    (leads_arrival rfl rfl).shows (shows_caller apart)
  apply RegisterFile.eq_withToken
  -- The registers and the flags come from their slots, and the token is given.
  · intro register
    rw [get_held, arrived.registers]
    exact (read_readFile caller (caller.registers .rdi) (.general register)).symm
  · rw [rflags_held, arrived.flags]
    exact (read_readFile caller (caller.registers .rdi) .flags).symm
  · rfl

include apart returns in
/-- The register file holds what the region left in its registers and its flags. -/
theorem readFile_finish :
    readFile (finish region returnAddress caller) (caller.registers .rdi) =
      held (departure region returnAddress caller)
        (readFile caller (caller.registers .rdi)).token := by
  -- The view tells the register and flag slots. The token lies outside it.
  have finished := shows_finish apart returns
  apply RegisterFile.eq_of_read
  intro slot
  rw [read_readFile]
  cases slot with
  | general register => exact (finished.cells (.register register)).trans (get_held ..).symm
  | flags => exact finished.cells .flags
  | token =>
    have token := (token_finish apart returns).trans (read_readFile caller _ .token).symm
    exact token.trans (token_held ..).symm

end Call

/-- A processor that is prepared for a register file has it apart from its stack. -/
theorem apart_prepared (file : RegisterFile) :
    Apart ((prepared file).registers .rdi) RegisterFile.size ((prepared file).stackPointer - 32)
      40 := by
  -- Both are a distance from the start of the file, and the stack is far behind.
  have start : (prepared file).registers .rdi = fileAddress + UInt64.ofNat 0 := rfl
  have bottom : (prepared file).stackPointer - 32 = fileAddress + UInt64.ofNat 0xFFE0 := by
    show stackTop - 32 = _
    decide
  rw [start, bottom]
  exact .behind fileAddress (by decide) (by decide)

/-- A region that changes registers and flags returns. -/
theorem returns_region (effect : RegisterFile → RegisterFile) (file : UInt64)
    (arrival : Processor) : Returns file arrival (Swap.region effect arrival) where
  balanced := rfl
  stack _ := rfl
  file _ := rfl

/-- The exchange routine performs every region that returns, for every caller whose register file
lies apart from its stack. -/
theorem performed_of_returns (region : UInt64 → Processor → Processor) (returnAddress : UInt64)
    (caller : Processor)
    (apart : Apart (caller.registers .rdi) RegisterFile.size (caller.stackPointer - 32) 40)
    (returns : Returns (caller.registers .rdi) (arrival caller returnAddress)
      (departure region returnAddress caller)) :
    Performed region returnAddress caller (caller.registers .rdi) := by
  -- The parts of the outcome are what the lemmas above say of the two halves of the routine.
  have arrived : Shows (layoutOf caller apart) (arrival caller returnAddress) _ :=
    (leads_arrival rfl rfl).shows (shows_caller apart)
  have loaded := held_arrival apart returnAddress
  have finished := shows_finish apart returns
  have stored := readFile_finish apart returns
  have bottom : (arrival caller returnAddress).stackPointer =
      (Cell.stack 0).address (layoutOf caller apart) := arrived.top rfl
  have top : (Cell.stack 4).address (layoutOf caller apart) = caller.stackPointer :=
    UInt64.sub_add_cancel ..
  exact {
    entered := steps_routine apart region returnAddress
    loaded := fun register => by
      rw [← get_held _ 0, loaded, RegisterFile.get_withToken]
    loadedFlags := by rw [← rflags_held _ 0, loaded, RegisterFile.rflags_withToken]
    linked := by
      rw [bottom, arrived.cells]
      rfl
    stored := fun register => by rw [stored, get_held]
    storedFlags := by rw [stored, rflags_held]
    keptToken := by rw [stored, token_held]
    untouchedToken := fun early =>
      untouched apart returns ((layoutOf caller apart).spares_token early)
    restored := fun {register} spared => by
      -- Every other register has been exchanged twice.
      rw [finished.registers, View.stored_registers spared]
      have other : register ≠ .rax := List.ne_of_not_mem_cons spared
      exact if_neg other
    restoredFlags := finished.flags
    restoredStack := by
      rw [finished.stackPointer, ← top]
      exact (add_ofNat_add_ofNat ..).symm
    backed := by
      -- The uppermost word is neither pushed nor popped before the return.
      have last := finished.cells (.stack 4)
      rw [top] at last
      exact last.trans (congrArg caller.word top)
    rehearsed := fun behaviour rehearsal block registers flags => by
      rw [stored]
      exact RegisterFile.eq_withToken (fun register => (get_held ..).trans (registers register))
        flags (token_held ..) }

/-- A region that adds five to `rax`, called with ten there. -/
theorem performed_of_addition :
    let caller := prepared { rax := 10, rflags := 0x203, token := 7 }
    let adding := Swap.region fun file => { file with rax := file.rax + 5 }
    Apart (caller.registers .rdi) RegisterFile.size (caller.stackPointer - 32) 40 ∧
      Returns (caller.registers .rdi) (arrival caller 0) (departure (fun _ => adding) 0 caller) ∧
      Performed (fun _ => adding) 0 caller (caller.registers .rdi) := by
  intro caller adding
  -- Both conditions hold of any prepared processor and of any region that returns.
  have apart := apart_prepared { rax := 10, rflags := 0x203, token := 7 }
  have returns := returns_region (fun file => { file with rax := file.rax + 5 })
    (caller.registers .rdi) (arrival caller 0)
  exact ⟨apart, returns, performed_of_returns (fun _ => adding) 0 caller apart returns⟩

end CallGate.Machine.Swap
