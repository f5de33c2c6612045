import CallGate.Dispatcher
import CallGate.Transport.Loopback

/-! Runs of the dispatcher: the events it handles, and the states in which it takes them up. -/

namespace CallGate

/-- An invoker whose regions change no register. -/
def Invoker.idle : Invoker (Rehearsal Unit) Unit :=
  ⟨Rehearsal.trampoline fun file state => (file, state), .fixed ⟨0x202⟩⟩

namespace Dispatcher

variable {τ σ ξ φ : Type}

/-- A server in memory, with a key pair of its own. -/
def onLoopback (crypto : Primitives σ) (invoker : Invoker ξ φ) (secret : SecretKey)
    (table : RegionTable) (pollInterval : Duration) : Dispatcher Loopback σ ξ φ where
  transport := Loopback.transport
  crypto := crypto
  invoker := invoker
  keys := .ofSecret crypto secret
  table := table
  pollInterval := pollInterval

/-- One event of a run. -/
structure Moment (τ σ ξ φ : Type) where
  event : Event
  /-- What the server holds when it takes the event up. -/
  state : State τ σ ξ φ

/-- What the server holds after it polled its transport and before it handles what came. -/
def polled (server : Dispatcher τ σ ξ φ) (state : State τ σ ξ φ) : State τ σ ξ φ :=
  { state with transport := (server.transport.poll server.pollInterval state.transport).2 }

/-- What the server holds once an event of a run is handled. -/
def after (server : Dispatcher τ σ ξ φ) (moment : Moment τ σ ξ φ) : State τ σ ξ φ :=
  server.handle moment.event moment.state

/-- Every event handled in up to `budget` polls, first to last. -/
def history (server : Dispatcher τ σ ξ φ) : (budget : Nat) → State τ σ ξ φ →
    List (Moment τ σ ξ φ)
  | 0, _ => []
  | budget + 1, state =>
    match (server.transport.poll server.pollInterval state.transport).1 with
    | .error _ => []
    | .ok none => history server budget (server.polled state)
    | .ok (some event) =>
      let moment := ⟨event, server.polled state⟩
      moment :: history server budget (server.after moment)

/-- A run from one state to another, with everything it handles in between. -/
inductive Run (server : Dispatcher τ σ ξ φ) :
    State τ σ ξ φ → List (Moment τ σ ξ φ) → State τ σ ξ φ → Prop
  | stop (state : State τ σ ξ φ) : Run server state [] state
  | idle {state final : State τ σ ξ φ} {moments : List (Moment τ σ ξ φ)}
    (rest : Run server (server.polled state) moments final) : Run server state moments final
  | event {state final : State τ σ ξ φ} {moments : List (Moment τ σ ξ φ)} (event : Event)
    (rest : Run server (server.after ⟨event, server.polled state⟩) moments final) :
    Run server state (⟨event, server.polled state⟩ :: moments) final

/-- Polling up to so many times is a run through its history. -/
theorem run_steps (server : Dispatcher τ σ ξ φ) (budget : Nat) (state : State τ σ ξ φ) :
    server.Run state (server.history budget state) (server.steps budget state).2 := by
  -- The induction follows the polls, and each poll is one of the ways in which a run goes on.
  induction budget generalizing state with
  | zero => exact .stop state
  | succ budget ih =>
    cases came : server.transport.poll server.pollInterval state.transport with
    | mk outcome transport =>
      -- The transport is all that a poll changes.
      have moved : server.polled state = { state with transport } := by simp [polled, came]
      cases outcome with
      | error error =>
        -- A transport that fails ends the polling, and its last state is where the run stops.
        simp only [history, steps, step, came]
        exact .idle (moved ▸ .stop _)
      | ok event? =>
        cases event? with
        | none =>
          -- Nothing came, so the run goes on from the poll.
          simp only [history, steps, step, came]
          rw [← moved]
          exact .idle (ih _)
        | some event =>
          -- An event came, and the run goes on from what handling it leaves.
          simp only [history, steps, step, came]
          rw [← moved]
          exact .event event (ih _)

namespace Run

variable {server : Dispatcher τ σ ξ φ} {state final : State τ σ ξ φ}
  {moments : List (Moment τ σ ξ φ)}

/-- What polling does not touch and every event extends grows by what the events contribute. -/
theorem grows {α : Type} (run : server.Run state moments final)
    (observe : State τ σ ξ φ → List α) {emit : Moment τ σ ξ φ → List α}
    (quiet : ∀ state, observe (server.polled state) = observe state)
    (extended : ∀ moment, observe (server.after moment) = observe moment.state ++ emit moment) :
    observe final = observe state ++ moments.flatMap emit := by
  -- Polls leave the observation alone, and each event adds its share behind the earlier ones.
  induction run with
  | stop state => simp
  | idle rest ih => rw [ih, quiet]
  | event event rest ih => rw [ih, extended, quiet, List.flatMap_cons, List.append_assoc]

/-- A number that polls leave alone, and that some events raise by one, grows by the count of these
events. -/
theorem counts (run : server.Run state moments final) (observe : State τ σ ξ φ → Nat)
    {raises : Moment τ σ ξ φ → Bool}
    (quiet : ∀ state, observe (server.polled state) = observe state)
    (raised : ∀ moment, observe (server.after moment) =
      observe moment.state + (raises moment).toNat) :
    observe final = observe state + moments.countP raises := by
  -- The induction is on the run. Polls leave the number alone.
  induction run with
  | stop state => simp
  | idle rest ih => rw [ih, quiet]
  | event event rest ih =>
    -- The first event raises the number by its own share, and the rest by theirs.
    rw [ih, raised, quiet, List.countP_cons]
    cases raises _ with
    | false => simp
    | true =>
      simp only [Bool.toNat_true, if_true]
      omega

/-- A run up to one of its events ends in the state in which the event is taken up, and the run
goes on from what handling the event leaves. -/
theorem split {before later : List (Moment τ σ ξ φ)} {moment : Moment τ σ ξ φ}
    (run : server.Run state moments final) (cut : moments = before ++ moment :: later) :
    server.Run state before moment.state ∧ server.Run (server.after moment) later final := by
  -- The run is followed up to the cut, which is either its next event or somewhere behind it.
  induction run generalizing before with
  | stop state => simp at cut
  | idle rest ih =>
    obtain ⟨earlier, rest⟩ := ih cut
    exact ⟨.idle earlier, rest⟩
  | event event rest ih =>
    cases before with
    | nil =>
      -- The event is the first of the run, so nothing but the poll comes before it.
      simp only [List.nil_append, List.cons.injEq] at cut
      obtain ⟨rfl, rfl⟩ := cut
      exact ⟨.idle (.stop _), rest⟩
    | cons first before =>
      simp only [List.cons_append, List.cons.injEq] at cut
      obtain ⟨rfl, cut⟩ := cut
      obtain ⟨earlier, rest⟩ := ih cut
      exact ⟨.event event earlier, rest⟩

/-- What polling and every event of a run keep holds at its end. -/
theorem keeps (holds : State τ σ ξ φ → Prop) (run : server.Run state moments final)
    (quiet : ∀ state, holds state → holds (server.polled state))
    (kept : ∀ moment ∈ moments, holds moment.state → holds (server.after moment))
    (start : holds state) : holds final := by
  -- The property is handed on from state to state, over polls and over events.
  induction run with
  | stop state => exact start
  | idle rest ih => exact ih kept (quiet _ start)
  | event event rest ih =>
    exact ih (fun moment member => kept moment (by simp [member]))
      (kept _ (by simp) (quiet _ start))

end Run

end Dispatcher

end CallGate
