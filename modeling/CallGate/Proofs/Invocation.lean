import CallGate.Proofs.Dispatcher.Gate
import CallGate.Proofs.Dispatcher.Reception

/-! What running a region comes to: which tokens are run, and what crosses in either direction. -/

namespace CallGate

namespace RegionTable

/-- A region stands at a token exactly when the token lies below the number of regions. -/
theorem exists_region_iff (table : RegionTable) (token : UInt64) :
    (∃ region, table.regions[token.toNat]? = some region) ↔ token.toNat < table.size := by
  -- A place in a list is one below its length.
  rw [← Option.isSome_iff_exists, isSome_getElem?, size]

end RegionTable

namespace Invoker

variable {ξ φ : Type}

/-- A token with a region enters that region, with the flags of the server around the status bits
of the client, and hands back what comes out with the flags of the client around those of the
region. -/
theorem invoke_of_region (invoker : Invoker ξ φ) {table : RegionTable} {file : RegisterFile}
    {region : Region} (found : table.regions[file.token.toNat]? = some region)
    (state : State ξ φ) :
    invoker.invoke table file state =
      let (left, trampoline) :=
        invoker.trampoline.enter region.block (invoker.admitted file state) state.trampoline
      (.ok { left with
          rflags := (file.rflags &&& ~~~Flags.statusMask) ||| (left.rflags &&& Flags.statusMask)
          token := file.token },
        ⟨trampoline, (invoker.flags.read state.flags).2⟩) := by
  -- The region is found, so the guard is put up, the region is entered and the guard taken down.
  simp [invoke, RegionTable.lookup, found, FlagSource.guard, FlagGuard.enter, FlagGuard.leave,
    GuardedFlags.leave, Flags.withStatusOf, Flags.nonStatus, Flags.status, admitted]

/-- What goes into a region for a register file, and what its client gets back.

The region may leave anything behind in any register, the flags and the token included. -/
structure Crossing (baseline : Flags) (file loaded left answer : RegisterFile) : Prop where
  /-- The region finds the client's registers. -/
  registersIn (register : Register) : loaded.get register = file.get register
  /-- The region finds the client's token. -/
  tokenIn : loaded.token = file.token
  /-- The region runs with the server's flags, except for the client's status bits. -/
  flagsIn : loaded.rflags =
    (baseline.bits &&& ~~~Flags.statusMask) ||| (file.rflags &&& Flags.statusMask)
  /-- The client gets the registers as the region left them. -/
  registersOut (register : Register) : answer.get register = left.get register
  /-- The client gets its own token back. -/
  tokenOut : answer.token = file.token
  /-- The client gets its own flags back, except for the region's status bits. -/
  flagsOut : answer.rflags =
    (file.rflags &&& ~~~Flags.statusMask) ||| (left.rflags &&& Flags.statusMask)

/-- What comes of running a register file.

The ghost list of entries tells how often a region was entered, and which one. -/
inductive Invoked (invoker : Invoker ξ φ) (table : RegionTable) (file : RegisterFile)
    (state : State ξ φ) (entries : List Entry) :
    Except InvokeError RegisterFile × State (ξ × List Entry) φ → Prop
  /-- The token lies outside the table: nothing is entered, and no state moves. -/
  | refused (outside : table.size ≤ file.token.toNat) :
    Invoked invoker table file state entries
      (.error (.invalidToken file.token table.size), state.recording entries)
  /-- The token lies within the table: its region is entered once. -/
  | entered (region : Region) (loaded left answer : RegisterFile) (trampoline : ξ) (flags : φ)
    (baseline : Flags)
    (found : table.regions[file.token.toNat]? = some region)
    (read : invoker.flags.read state.flags = (baseline, flags))
    (ran : invoker.trampoline.enter region.block loaded state.trampoline = (left, trampoline))
    (crossing : Crossing baseline file loaded left answer) :
    Invoked invoker table file state entries
      (.ok answer, ⟨(trampoline, entries ++ [⟨region.block, loaded⟩]), flags⟩)

/-- A register file is run exactly when its token lies within the table. -/
theorem exists_invoke_iff (invoker : Invoker ξ φ) (table : RegionTable) (file : RegisterFile)
    (state : State ξ φ) :
    (∃ answer, (invoker.invoke table file state).1 = .ok answer) ↔
      file.token.toNat < table.size := by
  rw [← table.exists_region_iff]
  -- Looking the token up is all that can fail.
  cases found : table.regions[file.token.toNat]? with
  | none => simp [invoke_of_outside found]
  | some region => simp [invoke_of_region invoker found]

/-- Running a register file with its entries noted is one of the two things it may come to. -/
theorem invoked_recorded (invoker : Invoker ξ φ) (table : RegionTable) (file : RegisterFile)
    (state : State ξ φ) (entries : List Entry) :
    Invoked invoker table file state entries
      (invoker.recorded.invoke table file (state.recording entries)) := by
  -- Noting entries changes nothing else, so the plain run is looked at beside them.
  rw [invoke_recorded]
  cases found : table.regions[file.token.toNat]? with
  | none =>
    -- Nothing was looked up, so nothing is entered or noted.
    have outside : table.size ≤ file.token.toNat := List.getElem?_eq_none_iff.mp found
    simpa [invoke_of_outside found, entered?, found] using .refused outside
  | some region =>
    cases ran : invoker.trampoline.enter region.block (invoker.admitted file state)
        state.trampoline with
    | mk left trampoline =>
      -- Both crossings replace the flags, and the way back the token too, but no register.
      have crossing : Crossing (invoker.flags.read state.flags).1 file
          (invoker.admitted file state) left
          { left with
            rflags := (file.rflags &&& ~~~Flags.statusMask) ||| (left.rflags &&& Flags.statusMask)
            token := file.token } :=
        ⟨fun register => by cases register <;> rfl, rfl, rfl,
          fun register => by cases register <;> rfl, rfl, rfl⟩
      simpa [invoke_of_region invoker found, entered?, found, ran, State.recording] using
        Invoked.entered region _ left _ trampoline _ _ found rfl ran crossing

/-- A register file is run exactly when its token lies within the table. If it is, one region is
entered once, that at the token, and nothing but status bits crosses with the registers in either
direction. If it is not, the token is reported and no region is entered. -/
theorem invocation_contract (invoker : Invoker ξ φ) (table : RegionTable) (file : RegisterFile)
    (state : State ξ φ) (entries : List Entry) :
    ((∃ answer, (invoker.invoke table file state).1 = .ok answer) ↔
        file.token.toNat < table.size) ∧
      (invoker.recorded.invoke table file (state.recording entries)).1 =
        (invoker.invoke table file state).1 ∧
      Invoked invoker table file state entries
        (invoker.recorded.invoke table file (state.recording entries)) :=
  -- The three parts are the condition, the harmlessness of noting, and what noting shows.
  ⟨invoker.exists_invoke_iff table file state, by rw [invoke_recorded],
    invoker.invoked_recorded table file state entries⟩

end Invoker

end CallGate
