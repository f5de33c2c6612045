import CallGate.Dispatcher
import Mathlib.Logic.Function.Iterate

/-! A server does the same over a transport that keeps more. -/

namespace CallGate

/-- The wider transport answers what the other one answers, and what it keeps shows as what the
other one keeps. -/
structure Transport.Shows {τ ω : Type} (wider : Transport ω) (transport : Transport τ)
    (view : ω → τ) : Prop where
  poll (wait : Duration) (state : ω) :
    transport.poll wait (view state) = Prod.map id view (wider.poll wait state)
  send (target : ConnectionId) (packet : Bytes) (state : ω) :
    transport.send target packet (view state) = Prod.map id view (wider.send target packet state)
  disconnect (target : ConnectionId) (state : ω) :
    transport.disconnect target (view state) = view (wider.disconnect target state)

namespace Dispatcher

variable {τ ω σ ξ φ : Type}

/-- The same server over another transport. -/
def atop (server : Dispatcher τ σ ξ φ) (transport : Transport ω) : Dispatcher ω σ ξ φ where
  transport := transport
  crypto := server.crypto
  invoker := server.invoker
  keys := server.keys
  table := server.table
  pollInterval := server.pollInterval

/-- What a server holds after so many steps, whatever each of them comes to. -/
def stepping (server : Dispatcher τ σ ξ φ) (count : Nat) (state : State τ σ ξ φ) :
    State τ σ ξ φ :=
  (fun state => (server.step state).2)^[count] state

/-- A run of one step more ends with that step. -/
theorem stepping_succ (server : Dispatcher τ σ ξ φ) (count : Nat) (state : State τ σ ξ φ) :
    server.stepping (count + 1) state = (server.step (server.stepping count state)).2 :=
  Function.iterate_succ_apply' ..

/-- What a server holds, with its transport seen through a view. -/
def State.seen (view : ω → τ) (state : State ω σ ξ φ) : State τ σ ξ φ where
  transport := view state.transport
  crypto := state.crypto
  invoker := state.invoker
  connections := state.connections
  log := state.log

section Seeing

variable {server : Dispatcher τ σ ξ φ} {wider : Transport ω} {view : ω → τ}

/-- A client is greeted alike over either transport. -/
theorem seen_welcome (shows : wider.Shows server.transport view) (id : ConnectionId)
    (state : State ω σ ξ φ) :
    server.welcome id (state.seen view) = ((server.atop wider).welcome id state).seen view := by
  -- The greeting is sent over either transport, with the same outcome.
  have sent := shows.send id (Handshake.hello server.keys).encode state.transport
  cases came : wider.send id (Handshake.hello server.keys).encode state.transport with
  | mk outcome transport =>
    rw [came] at sent
    cases outcome with
    | error cause =>
      simp [welcome, atop, State.seen, State.note, sent, came, shows.disconnect]
    | ok _ => simp [welcome, atop, State.seen, State.note, sent, came]

/-- Establishing a session does not concern the transport. -/
theorem seen_establish (target : ConnectionId) (packet : Bytes) (state : State ω σ ξ φ) :
    server.establish target packet (state.seen view) =
      Prod.map id (State.seen view) ((server.atop wider).establish target packet state) := by
  -- The transport is neither read nor written here, so both sides are the same by their definition.
  simp only [establish, atop, State.seen]
  cases state.connections.get? target with
  | none => rfl
  | some phase =>
    cases phase with
    | established session => rfl
    | awaiting =>
      cases KeyExchange.decode packet with
      | error error => rfl
      | ok message =>
        simp only
        rcases Handshake.complete server.crypto server.keys message state.crypto with
          ⟨outcome, crypto⟩
        cases outcome <;> rfl

/-- A request is executed alike over either transport. -/
theorem seen_execute (shows : wider.Shows server.transport view) (target : ConnectionId)
    (packet : Bytes) (state : State ω σ ξ φ) :
    server.execute target packet (state.seen view) =
      Prod.map id (State.seen view) ((server.atop wider).execute target packet state) := by
  -- Up to the answer the transport is not looked at.
  simp only [execute, State.seen]
  cases state.connections.get? target with
  | none => rfl
  | some phase =>
    cases phase with
    | awaiting => rfl
    | established session =>
      have answered : (server.atop wider).answer session packet state.crypto state.invoker =
          server.answer session packet state.crypto state.invoker := rfl
      simp only [answered]
      rcases server.answer session packet state.crypto state.invoker with
        ⟨outcome, crypto, invoker⟩
      cases outcome with
      | error error => rfl
      | ok envelope =>
        -- The answer is sent over either transport, with the same outcome.
        have sent := shows.send target envelope.encode state.transport
        cases came : wider.send target envelope.encode state.transport with
        | mk outcome transport =>
          rw [came] at sent
          cases outcome <;> simp [atop, State.seen, sent, came]

/-- A packet is received alike over either transport. -/
theorem seen_receive (shows : wider.Shows server.transport view) (target : ConnectionId)
    (packet : Bytes) (state : State ω σ ξ φ) :
    server.receive target packet (state.seen view) =
      Prod.map id (State.seen view) ((server.atop wider).receive target packet state) := by
  -- What a packet is taken for does not depend on the transport.
  unfold receive
  cases PacketKind.peek packet with
  | error error => rfl
  | ok kind =>
    cases kind with
    | keyExchange => exact seen_establish target packet state
    | execute => exact seen_execute shows target packet state
    | stateTransfer => rfl

/-- A connection is forgotten alike over either transport. -/
theorem seen_forget (state : State ω σ ξ φ) (id : ConnectionId) (notice : Notice) :
    (state.seen view).forget id notice = (state.forget id notice).seen view := by
  -- The entries are not part of the view.
  have same : (state.seen view).connections = state.connections := rfl
  unfold State.forget
  rw [same]
  split <;> rfl

/-- Handling an event does the same over either transport. -/
theorem seen_handle (shows : wider.Shows server.transport view) (event : Event)
    (state : State ω σ ξ φ) :
    server.handle event (state.seen view) = ((server.atop wider).handle event state).seen view := by
  -- Each kind of event has its lemma, and a refused packet is rejected over either transport.
  cases event with
  | connected id => exact seen_welcome shows id state
  | received id packet =>
    simp only [handle, seen_receive shows, Prod.map]
    rcases (server.atop wider).receive id packet state with ⟨outcome, next⟩
    cases outcome with
    | ok _ => rfl
    | error cause => simp [reject, atop, State.seen, State.note, shows.disconnect]
  | disconnected id => exact seen_forget state id _
  | timedOut id => exact seen_forget state id _

/-- So does a step. -/
theorem seen_step (shows : wider.Shows server.transport view) (state : State ω σ ξ φ) :
    server.step (state.seen view) =
      Prod.map id (State.seen view) ((server.atop wider).step state) := by
  -- Either transport is polled, and both hand out the same event or none.
  have narrow : server.transport.poll server.pollInterval (state.seen view).transport = _ :=
    shows.poll server.pollInterval state.transport
  cases came : wider.poll server.pollInterval state.transport with
  | mk outcome transport =>
    rw [came] at narrow
    have wide : (server.atop wider).transport.poll (server.atop wider).pollInterval
        state.transport = (outcome, transport) := came
    have moved : { state.seen view with transport := view transport } =
        State.seen view { state with transport } := rfl
    cases outcome with
    | error error => simp [step, narrow, wide, moved]
    | ok event? =>
      cases event? with
      | none => simp [step, narrow, wide, moved]
      | some event => simp [step, narrow, wide, moved, seen_handle shows]

/-- So do as many steps as are made. -/
theorem seen_stepping (shows : wider.Shows server.transport view) (count : Nat)
    (state : State ω σ ξ φ) :
    server.stepping count (state.seen view) =
      ((server.atop wider).stepping count state).seen view := by
  -- A view that goes with one step goes with all of them.
  have semiconj : Function.Semiconj (State.seen view)
      (fun state => ((server.atop wider).step state).2) fun state => (server.step state).2 :=
    fun state => (congrArg Prod.snd (seen_step shows state)).symm
  exact (semiconj.iterate_right count state).symm

end Seeing

end Dispatcher

end CallGate
