import CallGate.Flags

/-! Only status bits cross between a client and a region, in either direction. -/

namespace CallGate

/-- A source of the flags the server itself runs with, with state `φ`. -/
structure FlagSource (φ : Type) where
  /-- The flags at this moment. -/
  read : φ → Flags × φ

/-- A source that always answers the same. -/
def FlagSource.fixed (flags : Flags) : FlagSource Unit := ⟨fun state => (flags, state)⟩

/-- A client's flags, made fit for execution. -/
structure GuardedFlags where
  /-- What the region runs with. -/
  execution : Flags
  /-- What the client sent. -/
  sent : Flags
  deriving DecidableEq, Repr

namespace FlagGuard

/-- The client's status bits over everything else of the baseline. -/
def enter (client baseline : Flags) : GuardedFlags := ⟨baseline.withStatusOf client, client⟩

/-- The region's status bits over everything else the client sent. -/
def leave (sent after : Flags) : Flags := sent.withStatusOf after

end FlagGuard

/-- The flags to hand back to the client these flags came from. -/
def GuardedFlags.leave (guarded : GuardedFlags) (after : Flags) : Flags :=
  FlagGuard.leave guarded.sent after

/-- Reads the baseline now and lays the client's status bits over it. -/
def FlagSource.guard {φ : Type} (source : FlagSource φ) (client : Flags) (state : φ) :
    GuardedFlags × φ :=
  let (baseline, state) := source.read state
  (FlagGuard.enter client baseline, state)

end CallGate
