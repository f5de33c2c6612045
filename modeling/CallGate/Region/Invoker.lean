import CallGate.Region.FlagGuard
import CallGate.Region.Table
import CallGate.Register

/-! Running a region on a client's register file. -/

namespace CallGate

/-- The way into a region, with state `ξ`.

The register file goes in as the region finds it and comes out as the region left it. -/
structure Trampoline (ξ : Type) where
  enter : LockedBlock → RegisterFile → ξ → RegisterFile × ξ

/-- A stand-in for native code that applies a behaviour and remembers every entry.

The behaviour may depend on a state `ξ` of its own, hence on everything it saw before. -/
structure Rehearsal (ξ : Type) where
  /-- The state of the behaviour. -/
  inner : ξ
  /-- The blocks entered, first to last. -/
  entries : List LockedBlock := []
  /-- The register files they were entered with. -/
  loaded : List RegisterFile := []

namespace Rehearsal

variable {ξ : Type}

/-- A rehearsal that has not been entered yet. -/
def start (inner : ξ) : Rehearsal ξ := { inner }

/-- Enters the behaviour instead of the block. The token stays what it was. -/
def trampoline (behaviour : RegisterFile → ξ → RegisterFile × ξ) : Trampoline (Rehearsal ξ) where
  enter block file rehearsal :=
    let (after, inner) := behaviour file rehearsal.inner
    ({ after with token := file.token },
      { inner
        entries := rehearsal.entries ++ [block]
        loaded := rehearsal.loaded ++ [file] })

end Rehearsal

/-- What it takes to run regions: a way in and the server's own flags. -/
structure Invoker (ξ φ : Type) where
  trampoline : Trampoline ξ
  flags : FlagSource φ

namespace Invoker

variable {ξ φ : Type}

/-- The state of both parts of an invoker. -/
structure State (ξ φ : Type) where
  trampoline : ξ
  flags : φ

/-- Runs the region a register file selects.

The token is looked up before anything else, and both crossings go through the flag guard. -/
def invoke (invoker : Invoker ξ φ) (table : RegionTable) (file : RegisterFile)
    (state : State ξ φ) : Except InvokeError RegisterFile × State ξ φ :=
  match table.lookup file.token with
  | .error error => (.error error, state)
  | .ok region =>
    let (guarded, flags) := invoker.flags.guard ⟨file.rflags⟩ state.flags
    let working := { file with rflags := guarded.execution.bits }
    let (after, trampoline) := invoker.trampoline.enter region.block working state.trampoline
    let answer := { after with
      rflags := (guarded.leave ⟨after.rflags⟩).bits
      token := file.token }
    (.ok answer, ⟨trampoline, flags⟩)

end Invoker

end CallGate
