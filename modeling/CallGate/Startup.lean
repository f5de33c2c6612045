import CallGate.Dispatcher
import CallGate.Region.Table
import CallGate.Settings
import CallGate.Transport.Tcp

/-! Starting a server: keys first, then regions, and the listener only when both are there. What was
loaded is then served until the transport fails. -/

namespace CallGate

/-- Why a server does not start or stops. -/
inductive ServerError where
  | settings (cause : SettingsError)
  | keys (cause : KeyError)
  | regions (cause : RegionError)
  | transport (cause : TransportError)
  | unsupportedPlatform
  deriving DecidableEq, Repr

/-- What is reported for a server. -/
def ServerError.message : ServerError → String
  | settings cause => s!"Configuration error: {cause.message}"
  | keys cause => s!"Key error: {cause.message}"
  | regions cause => s!"Region registry error: {cause.message}"
  | transport cause => s!"Transport error: {cause.message}"
  | unsupportedPlatform => "Native regions are not supported on this platform"

namespace Startup

variable {σ μ ν : Type}

/-- Everything a server loads before it listens. -/
structure Loaded where
  keys : KeyPair
  table : RegionTable

/-- Loads the keys, then the regions. Nothing of the regions is looked at before the keys fit. -/
def load (crypto : Primitives σ) (memory : ExecutableMemory μ) (read : ReadFile)
    (plan : LaunchPlan) (state : μ) : Except ServerError Loaded × μ × List Notice :=
  match KeyPair.load crypto read plan.publicKey plan.privateKey with
  | .error cause => (.error (.keys cause), state, [])
  | .ok keys =>
    let keysLoaded := Notice.keysLoaded plan.publicKey
    match RegionTable.loadFile memory read plan.descriptor state with
    | (.error cause, state, notices) => (.error (.regions cause), state, keysLoaded :: notices)
    | (.ok table, state, notices) =>
      let descriptorLoaded := Notice.descriptorLoaded plan.descriptor table.size
      (.ok ⟨keys, table⟩, state, keysLoaded :: notices ++ [descriptorLoaded])

/-- What a start came to. -/
structure Outcome (μ ν : Type) where
  /-- What was loaded and the transport that listens, or what went wrong first. -/
  result : Except ServerError (Loaded × Tcp ν)
  memory : μ
  /-- The machine after the start, untouched unless everything was loaded. -/
  network : ν
  /-- What was logged, first to last. -/
  log : List Notice

/-- Loads everything and then opens the listener. -/
def launch (crypto : Primitives σ) (memory : ExecutableMemory μ) (network : Network ν)
    (read : ReadFile) (plan : LaunchPlan) (patience : Nat) (pages : μ) (state : ν) :
    Outcome μ ν :=
  match load crypto memory read plan pages with
  | (.error cause, pages, log) => ⟨.error cause, pages, state, log⟩
  | (.ok loaded, pages, log) =>
    match Tcp.bind network plan.bindAddress plan.maxClients plan.idleTimeout patience state with
    | (.error cause, state) => ⟨.error (.transport cause), pages, state, log⟩
    | (.ok (_, tcp), state) =>
      let listening := Notice.listening plan.bindAddress plan.maxClients
      ⟨.ok (loaded, tcp), pages, state, log ++ [listening]⟩

/-- The dispatcher for what was loaded. -/
def dispatcher {ξ φ : Type} (network : Network ν) (crypto : Primitives σ) (invoker : Invoker ξ φ)
    (plan : LaunchPlan) (loaded : Loaded) : Dispatcher (Tcp ν) σ ξ φ where
  transport := Tcp.transport network
  crypto := crypto
  invoker := invoker
  keys := loaded.keys
  table := loaded.table
  pollInterval := plan.pollInterval

/-- A server from its start on. -/
structure Service (μ ν σ ξ φ : Type) where
  start : Outcome μ ν
  /-- The server as it stands, and what ended the service, if it was started and if it ended. -/
  served : Option (Option TransportError × Dispatcher.State (Tcp ν) σ ξ φ)

/-- What kept a server from starting, or ended its service. -/
def Service.failure {ξ φ : Type} (service : Service μ ν σ ξ φ) : Option ServerError :=
  match service.start.result, service.served with
  | .error cause, _ => some cause
  | .ok _, none => none
  | .ok _, some (ended, _) => ended.map .transport

/-- Starts a server and serves what was loaded for up to `budget` polls. -/
def run {ξ φ : Type} (crypto : Primitives σ) (memory : ExecutableMemory μ) (network : Network ν)
    (invoker : Invoker ξ φ) (read : ReadFile) (plan : LaunchPlan) (patience budget : Nat)
    (pages : μ) (state : ν) (keeping : σ) (standing : Invoker.State ξ φ) : Service μ ν σ ξ φ :=
  let start := launch crypto memory network read plan patience pages state
  match start.result with
  | .error _ => ⟨start, none⟩
  | .ok (loaded, tcp) =>
    let server := dispatcher network crypto invoker plan loaded
    ⟨start, some (server.serve budget
      { transport := tcp, crypto := keeping, invoker := standing })⟩

end Startup

end CallGate
