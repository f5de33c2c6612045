import CallGate.Proofs.Machine.Stepping

/-! Before its call, the exchange routine loads the register file, and after it stores it again. -/

namespace CallGate.Machine.Swap

variable {layout : Layout} {view : View} {region : UInt64 → Processor → Processor}
  {returnAddress : UInt64}

/-- The instructions before the call. -/
def loading : List Step :=
  [.pushFlags, .push .rdi, .push .rsi, .move .rax .rdi] ++ exchangeAll ++
  [.pushWord (slot .flags), .popFlags, .exchange .rax (slot (.general .rax))]

/-- The instructions after the call. -/
def storing : List Step :=
  [.exchange .rax (stack 8)] ++ exchangeAll ++
  [.load .rcx (stack 8), .store (slot (.general .rax)) .rcx,
    .pushFlags, .popWord (slot .flags), .pop .rcx, .pop .rdx, .popFlags, .ret]

/-- The routine calls the region once. -/
theorem routine_eq : routine = loading ++ .call (stack 0) :: storing := rfl

namespace View

/-- Exchanges registers with their slots. -/
def swapped (view : View) (registers : List Register) : View :=
  { view with
    registers := fun register =>
      if register ∈ registers then view.cells (.register register) else view.registers register
    cells := fun
      | .register held =>
        if held ∈ registers then view.registers held else view.cells (.register held)
      | .flags => view.cells .flags
      | .stack place => view.cells (.stack place) }

/-- What the stack holds before the registers are exchanged: what it takes to go back. Then `rax`
points to the register file. -/
def saved (view : View) : View where
  registers register := if register = .rax then view.registers .rdi else view.registers register
  flags := view.flags
  depth := 1
  cells
    | .stack 1 => view.registers .rsi
    | .stack 2 => view.registers .rdi
    | .stack 3 => view.flags
    | cell => view.cells cell

/-- What a region finds: the register file in the registers, what the registers held before in the
register file, and on the stack what it takes to go back. -/
def loaded (view : View) : View where
  registers register := view.cells (.register register)
  flags := view.cells .flags
  depth := 1
  cells
    | .register held => if held = .rax then view.registers .rdi else view.registers held
    | .flags => view.cells .flags
    | .stack 0 => view.cells .flags
    | .stack 1 => view.registers .rsi
    | .stack 2 => view.registers .rdi
    | .stack 3 => view.flags
    | .stack 4 => view.cells (.stack 4)

/-- What the caller finds: what the region left in the register file, and in the registers what the
register file held for it. -/
def stored (view : View) : View where
  registers
    | .rax => view.cells (.stack 2)
    | .rcx => view.cells (.stack 1)
    | .rdx => view.registers .rax
    | register => view.cells (.register register)
  flags := view.cells (.stack 3)
  depth := 5
  cells
    | .register held => view.registers held
    | .flags => view.flags
    | .stack 0 => view.flags
    | .stack 1 => view.cells (.stack 1)
    | .stack 2 => view.registers .rax
    | .stack 3 => view.cells (.stack 3)
    | .stack 4 => view.cells (.stack 4)

/-- All registers but three are what the register file held for them. -/
theorem stored_registers {register : Register} (spared : register ∉ [.rax, .rcx, .rdx])
    (view : View) : view.stored.registers register = view.cells (.register register) := by
  simp only [stored]
  -- Only the three have cases of their own.
  split
  · exact absurd List.mem_cons_self spared
  · exact absurd (List.mem_cons_of_mem _ List.mem_cons_self) spared
  · exact absurd (List.mem_cons_of_mem _ (List.mem_cons_of_mem _ List.mem_cons_self)) spared
  · rfl

end View

/-- Exchanging one register and then others is exchanging them all. -/
theorem swapped_cons {register : Register} {rest : List Register} (fresh : register ∉ rest) :
    ((view.setCell (.register register) (view.registers register)).setRegister register
      (view.cells (.register register))).swapped rest = view.swapped (register :: rest) := by
  -- The two views are compared in each of their parts.
  apply View.ext
  · funext other
    -- The first register is among neither the rest nor the ones exchanged after it.
    by_cases same : other = register
    · simp [View.swapped, View.setCell, View.setRegister, same, fresh]
    · simp [View.swapped, View.setCell, View.setRegister, same]
  · rfl
  · rfl
  · funext cell
    -- A register slot goes with its register. Flags and stack are touched by neither.
    cases cell with
    | register held =>
      by_cases same : held = register
      · simp [View.swapped, View.setCell, View.setRegister, same, fresh]
      · simp [View.swapped, View.setCell, View.setRegister, same]
    | flags => rfl
    | stack place => rfl

/-- Registers are exchanged one by one, each with its own slot. -/
theorem leads_exchanges {registers : List Register} (distinct : registers.Nodup)
    (others : .rax ∉ registers) (pointer : view.registers .rax = layout.file) :
    Leads layout view (·.steps region returnAddress
      (registers.map fun register => .exchange register (slot (.general register))))
      (view.swapped registers) := by
  -- The register file is found as long as `rax` is not exchanged itself.
  induction registers generalizing view with
  | nil =>
    -- With nothing exchanged, the view is the same register by register and cell by cell.
    have same : view.swapped [] = view := by
      apply View.ext
      · funext register
        simp [View.swapped]
      · rfl
      · rfl
      · funext cell
        cases cell <;> simp [View.swapped]
    rw [same]
    exact .nil
  | cons register rest ih =>
    -- The first is exchanged, and the rest finds the pointer in `rax` as before.
    obtain ⟨fresh, distinct⟩ := List.nodup_cons.mp distinct
    obtain ⟨other, others⟩ := List.ne_and_not_mem_of_not_mem_cons others
    rw [← swapped_cons fresh]
    apply Leads.cons (leads_exchange register (finds_register pointer register))
    apply ih distinct others
    simpa [View.setRegister, View.setCell, other] using pointer

/-- Every register but `rax` is exchanged with its slot. -/
theorem leads_exchangeAll (pointer : view.registers .rax = layout.file) :
    Leads layout view (·.steps region returnAddress exchangeAll) (view.swapped exchanged) :=
  leads_exchanges (by decide) (by decide) pointer

/-- First, what it takes to go back is put on the stack. -/
theorem leads_saving (depth : view.depth = 4) :
    Leads layout view (·.steps region returnAddress
      [.pushFlags, .push .rdi, .push .rsi, .move .rax .rdi]) view.saved := by
  -- Each push is one place further down, and none of them is among the slots.
  have leads : Leads layout view (·.steps region returnAddress
      [.pushFlags, .push .rdi, .push .rsi, .move .rax .rdi]) _ :=
    .cons (leads_pushFlags 3 depth) <| .cons (leads_push .rdi 2 rfl) <|
      .cons (leads_push .rsi 1 rfl) <| .cons (leads_move .rax .rdi) .nil
  apply leads.seen
  apply View.ext
  · rfl
  · rfl
  · rfl
  · funext cell
    exact match cell with
      | .register _ | .flags | .stack 0 | .stack 1 | .stack 2 | .stack 3 | .stack 4 => rfl

/-- Before the call, the register file and the registers change places. -/
theorem leads_loading (depth : view.depth = 4) (pointer : view.registers .rdi = layout.file) :
    Leads layout view (·.steps region returnAddress loading) view.loaded := by
  -- The view moves on from step to step, but `rax` points to the register file up to the last one.
  have pointing : view.saved.registers .rax = layout.file := pointer
  have leads : Leads layout view (·.steps region returnAddress loading) _ :=
    ((leads_saving depth).append (leads_exchangeAll pointing)).append <|
    .cons (leads_pushWord (finds_flags (by exact pointing)) 0 rfl) <|
      .cons (leads_popFlags 0 rfl) <|
      .cons (leads_exchange .rax (finds_register (by exact pointing) .rax)) .nil
  apply leads.seen
  apply View.ext
  -- Each register is compared by itself, since `rdi`, `rsi` and `rax` were moved about.
  · funext register
    cases register <;> rfl
  · rfl
  · rfl
  -- So is each cell, with the slots first.
  · funext cell
    exact match cell with
      | .register held => by cases held <;> rfl
      | .flags | .stack 0 | .stack 1 | .stack 2 | .stack 3 | .stack 4 => rfl

/-- After the call, the registers and the register file change places again. -/
theorem leads_storing (depth : view.depth = 1) (pointer : view.cells (.stack 2) = layout.file) :
    Leads layout view (·.steps region returnAddress storing) view.stored := by
  -- The second word from the top has the pointer until `rax` takes it and leaves its own value.
  have above : view.depth + 1 = (2 : Fin 5) := by
    rw [depth]
    rfl
  have turning : Leads layout view (·.steps region returnAddress [.exchange .rax (stack 8)])
      ((view.setCell (.stack 2) (view.registers .rax)).setRegister .rax (view.cells (.stack 2))) :=
    .cons (leads_exchange .rax (finds_stack 2 1 above)) .nil
  have leads : Leads layout view (·.steps region returnAddress storing) _ :=
    -- What is popped into `rcx` and `rdx` only has to go.
    (turning.append (leads_exchangeAll (by exact pointer))).append <|
    .cons (leads_load .rcx (finds_stack 2 1 (by exact above))) <|
      .cons (leads_store .rcx (finds_register (by exact pointer) .rax)) <|
      .cons (leads_pushFlags 0 (by exact depth)) <|
      .cons (leads_popWord (finds_flags (by exact pointer)) 0 rfl) <|
      .cons (leads_pop .rcx 1 rfl) <| .cons (leads_pop .rdx 2 rfl) <|
      .cons (leads_popFlags 3 rfl) <| .cons leads_ret .nil
  apply leads.seen
  apply View.ext
  -- Each register is compared by itself, since the three that were in use are restored apart.
  · funext register
    cases register <;> rfl
  · rfl
  · rfl
  · funext cell
    exact match cell with
      | .register held => by cases held <;> rfl
      | .flags | .stack 0 | .stack 1 | .stack 2 | .stack 3 | .stack 4 => rfl

/-- An instruction that calls. -/
def calls : Step → Bool
  | .call _ => true
  | _ => false

/-- Instructions that do not call do the same whatever there is to be called. -/
theorem steps_of_calm {steps : List Step} (calm : ∀ step ∈ steps, calls step = false)
    (processor : Processor) (region other : UInt64 → Processor → Processor)
    (returnAddress : UInt64) :
    processor.steps region returnAddress steps = processor.steps other returnAddress steps := by
  -- A call is the only step that looks at what there is to be called.
  induction steps generalizing processor with
  | nil => rfl
  | cons step rest ih =>
    have same : processor.step region returnAddress step =
        processor.step other returnAddress step := by
      have quiet := calm step List.mem_cons_self
      cases step with
      | call target => cases quiet
      | _ => rfl
    have later := ih (fun step listed => calm step (List.mem_cons_of_mem _ listed))
    simp only [Processor.steps, List.foldl_cons]
    rw [same]
    exact later _

/-- The processor as a region finds it: the call has put the return address on the stack.

Loading calls nothing, so it does not matter what there is to be called. -/
def arrival (caller : Processor) (returnAddress : UInt64) : Processor :=
  (caller.steps (fun _ processor => processor) returnAddress loading).pushValue returnAddress

/-- The region finds the register file in the registers, and its return address on the stack. -/
theorem leads_arrival (depth : view.depth = 4) (pointer : view.registers .rdi = layout.file) :
    Leads layout view (arrival · returnAddress) (view.loaded.push 0 returnAddress) :=
  -- The call itself puts its return address on the stack, and that is all.
  (leads_loading depth pointer).andThen (.pushValue rfl returnAddress)

end CallGate.Machine.Swap
