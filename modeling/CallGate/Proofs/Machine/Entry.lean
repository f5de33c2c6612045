import CallGate.Proofs.Machine.Calling

/-! Entering a block of machine code through the exchange routine is running its code. -/

namespace CallGate.Machine

section Token

variable (file : RegisterFile) (token : UInt64)

/-- The flags of a file do not depend on its token. -/
@[simp] theorem flags_withToken : flags (file.withToken token) = flags file := rfl

/-- Setting the flags after an operation passes the token by. -/
@[simp] theorem settle_withToken (outcome : Outcome) :
    settle (file.withToken token) outcome = (settle file outcome).withToken token := rfl

/-- Writing a result and its flags passes the token by. -/
@[simp] theorem settleIn_withToken (target : Register) (outcome : Outcome) :
    settleIn (file.withToken token) target outcome =
      (settleIn file target outcome).withToken token := by
  simp [settleIn]

/-- Setting or clearing one flag passes the token by. -/
@[simp] theorem assignFlag_withToken (bit : UInt64) (on : Bool) :
    assignFlag (file.withToken token) bit on = (assignFlag file bit on).withToken token := rfl

/-- An arithmetic instruction passes the token by. -/
@[simp] theorem combine_withToken (operation : Operation) (target : Register) (value : UInt64) :
    combine (file.withToken token) operation target value =
      (combine file operation target value).withToken token := by
  -- A comparison writes no register, and the other operations write one. Neither is the token.
  by_cases compared : operation = .cmp <;> simp [combine, compared]

/-- No instruction looks at the token. -/
@[simp] theorem execute_withToken (instruction : Instruction) :
    instruction.execute (file.withToken token) = (instruction.execute file).withToken token := by
  -- Only the instruction that sets a byte from a condition reads flags and a register at once.
  cases instruction with
  | setIf condition target =>
    simp only [Instruction.execute, RegisterFile.get_withToken, RegisterFile.set_withToken]
    rfl
  | _ => simp [Instruction.execute]

end Token

/-- No code looks at the token. -/
theorem runSteps_withToken (steps : Nat) (code : Bytes) (file : RegisterFile) (token : UInt64) :
    runSteps steps code (file.withToken token) = (runSteps steps code file).withToken token := by
  -- The cases are those of the run: no step left, no instruction, the three ways to go on, and
  -- any other instruction.
  fun_induction runSteps steps code file with
  | case1 => rfl
  | case2 steps code file illegal => simp [runSteps, illegal]
  | case3 steps code file rest returns => simp [runSteps, returns]
  | case4 steps code file distance rest jumps ih => simpa [runSteps, jumps] using ih
  | case5 steps code file condition distance rest jumps target ih =>
    simp only [runSteps, jumps]
    exact ih
  | case6 steps code file instruction rest decoded _ _ _ ih =>
    simp_all [runSteps]

/-- Code returns with the token that it was entered with. -/
theorem token_run (code : Bytes) (file : RegisterFile) : (run code file).token = file.token := by
  -- Replacing the token by itself before the run is replacing it after the run.
  have same := runSteps_withToken code.length code file file.token
  rw [RegisterFile.withToken_token] at same
  rw [run, same, RegisterFile.token_withToken]

namespace Swap

/-- A prepared processor holds the bytes of its register file in memory. -/
theorem block_prepared (file : RegisterFile) :
    (prepared file).block fileAddress RegisterFile.size = file.toBytes := by
  -- Both are 136 bytes, which are compared one by one.
  apply FixedBytes.ext
  apply List.ext_getElem
  · rw [FixedBytes.length_toList, FixedBytes.length_toList]
  · intro place early inside
    have small : place < 136 := by simpa [Processor.block, RegisterFile.size] using early
    -- The distance from the start of the register file is the place in its bytes.
    have distance : (fileAddress + UInt64.ofNat place - fileAddress).toNat = place := by
      rw [UInt64.add_comm, UInt64.add_sub_cancel, UInt64.toNat_ofNat_of_lt']
      simp only [UInt64.size]
      omega
    simp only [Processor.block, List.getElem_map, List.getElem_range, prepared, distance]
    simp [inside]

/-- So that is the register file it holds. -/
theorem readFile_prepared (file : RegisterFile) :
    readFile (prepared file) fileAddress = file := by
  -- Bytes that encode a register file are read back as that file.
  rw [readFile_eq_ofBytes, block_prepared, RegisterFile.ofBytes_toBytes]

/-- A region turns the registers and the flags that it finds into those that it leaves. -/
theorem held_region (effect : RegisterFile → RegisterFile) (processor : Processor)
    (token : UInt64) :
    held (region effect processor) token = (effect (held processor 0)).withToken token := by
  -- The region is defined on a file with the token 0, and its registers and flags are copied over.
  apply RegisterFile.eq_withToken
  · intro register
    rw [get_held]
    rfl
  · rfl
  · rfl

/-- Through the routine, a region does to a register file what it does to registers and flags, and
leaves the token alone. -/
theorem enter_eq (effect : RegisterFile → RegisterFile) (file : RegisterFile) :
    enter effect file = (effect (file.withToken 0)).withToken file.token := by
  -- The routine applies: the file is apart from the stack, and the region returns.
  have apart := apart_prepared file
  have returns : Returns ((prepared file).registers .rdi) (arrival (prepared file) 0)
      (departure (fun _ => region effect) 0 (prepared file)) := returns_region effect _ _
  have pointer : (prepared file).registers .rdi = fileAddress := rfl
  have stored := readFile_finish apart returns
  have loaded := held_arrival apart 0 0
  rw [pointer, readFile_prepared] at stored loaded
  calc enter effect file
    _ = held (region effect (arrival (prepared file) 0)) file.token := stored
    _ = (effect (held (arrival (prepared file) 0) 0)).withToken file.token := held_region ..
    _ = (effect (file.withToken 0)).withToken file.token := by rw [loaded]

end Swap

/-- Entering a block is running its code on the register file. -/
theorem trampoline_enter (block : LockedBlock) (file : RegisterFile) (state : Unit) :
    trampoline.enter block file state = (run block.code file, state) := by
  -- Code never looks at the token, so taking it out and putting it back changes nothing.
  have entered : Swap.enter (run block.code) file = run block.code file := by
    rw [Swap.enter_eq, run, runSteps_withToken, RegisterFile.withToken_withToken, ← run,
      ← token_run block.code file, RegisterFile.withToken_token]
  exact congrArg (·, state) entered

end CallGate.Machine
