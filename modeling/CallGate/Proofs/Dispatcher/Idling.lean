import CallGate.Proofs.Dispatcher.Isolation
import CallGate.Proofs.Dispatcher.Output
import CallGate.Proofs.Dispatcher.View

/-! What becomes of everything that is queued: it is handled in order, or dropped with its
connection. -/

namespace CallGate

/-- The connection that a call closes. -/
def Call.closed? : Call → Option ConnectionId
  | .closed connection => some connection
  | .sent .. => none

/-- Noting the calls of a transport changes nothing in what it does. -/
theorem Transport.recorded_shows {τ : Type} (transport : Transport τ) :
    transport.recorded.Shows transport Prod.fst where
  -- What is noted stands beside the transport and is never looked at.
  poll _ _ := rfl
  send _ _ _ := rfl
  disconnect _ _ := rfl

namespace Loopback

/-- The event stays in the queue when all of these connections are closed by the server. -/
def outlives (closed : List ConnectionId) (event : Event) : Bool :=
  closed.all fun id => survives id event

/-- Only the news of a connection outlives its close. -/
theorem outlives_eq_false_iff {closed : List ConnectionId} {event : Event} :
    outlives closed event = false ↔
      (∀ id, event ≠ .connected id) ∧ event.connection ∈ closed := by
  -- The four kinds of events are checked one by one.
  cases event <;> simp [outlives, survives]

/-- What outlives two lots of closings outlives the one and the other. -/
theorem filter_outlives_append (closed more : List ConnectionId) (events : List Event) :
    events.filter (outlives (closed ++ more)) =
      (events.filter (outlives closed)).filter (outlives more) := by
  -- Outliving the one and the other is outliving both.
  rw [List.filter_filter]
  refine List.filter_congr fun event _ => ?_
  rw [outlives, List.all_append, Bool.and_comm]
  rfl

end Loopback

namespace Dispatcher

variable {τ σ ξ φ : Type}

/-- What a server holds, before any call of its transport is noted. -/
def State.recorded (state : State τ σ ξ φ) : State (τ × List Call) σ ξ φ where
  transport := (state.transport, [])
  crypto := state.crypto
  invoker := state.invoker
  connections := state.connections
  log := state.log

/-- The connections that the server closes while it handles an event. -/
def closings (server : Dispatcher τ σ ξ φ) (moment : Moment τ σ ξ φ) : List ConnectionId :=
  (server.emitted ⟨moment.event, moment.state.recorded⟩).filterMap Call.closed?

/-- The events that are dropped from the queue with them. -/
def purged (server : Dispatcher Loopback σ ξ φ) (moment : Moment Loopback σ ξ φ) : List Event :=
  moment.state.transport.inbound.filter fun event =>
    !Loopback.outlives (server.closings moment) event

section Idling

variable {server : Dispatcher Loopback σ ξ φ}

/-- All other events stay in the queue. -/
theorem inbound_after (inMemory : server.transport = Loopback.transport)
    (moment : Moment Loopback σ ξ φ) :
    (server.after moment).transport.inbound =
      moment.state.transport.inbound.filter (Loopback.outlives (server.closings moment)) := by
  -- The calls are noted beside the loopback, which does the same as without.
  have same : (server.after moment).transport =
      (server.recordingCalls.handle moment.event moment.state.recorded).transport.1 :=
    congrArg State.transport
      (seen_handle server.transport.recorded_shows moment.event moment.state.recorded)
  rw [same]
  refine server.recordingCalls.transport_handle moment.state.recorded
    (fun transport => transport.1.inbound = moment.state.transport.inbound.filter
      (Loopback.outlives (transport.2.filterMap Call.closed?))) ?_ ?_ ?_
  · -- Sending closes nothing and drops nothing.
    rintro packet ⟨loopback, calls⟩ kept
    simp only [recordingCalls, Transport.recorded, inMemory, Loopback.transport,
      Loopback.inbound_send, List.filterMap_append] at kept ⊢
    simpa [List.filterMap_cons, Call.closed?] using kept
  · -- A close drops what does not survive it from what the closes before it have left.
    rintro ⟨loopback, calls⟩ kept
    simp only [recordingCalls, Transport.recorded, inMemory, Loopback.transport,
      Loopback.disconnect, List.filterMap_append] at kept ⊢
    rw [kept, List.filter_filter]
    refine List.filter_congr fun event _ => ?_
    simp [Call.closed?, Loopback.outlives, Bool.and_comm]
  -- At the start nothing is closed, so everything outlives it.
  · exact (List.filter_eq_self.mpr fun _ _ => rfl).symm

/-- The same of the first event of a queue and those behind it. -/
theorem inbound_handle_of_cons (inMemory : server.transport = Loopback.transport)
    {state : State Loopback σ ξ φ} {event : Event} {rest : List Event}
    (queued : state.transport.inbound = event :: rest) :
    (server.handle event state.dequeue).transport.inbound =
      rest.filter (Loopback.outlives (server.closings ⟨event, state.dequeue⟩)) := by
  -- Behind the event that was taken off stands the rest of the queue.
  have left : _ = state.transport.inbound.tail.filter _ :=
    inbound_after inMemory ⟨event, state.dequeue⟩
  rwa [queued] at left

/-- With every event that is handled fewer are left. -/
theorem pending_handle_lt (inMemory : server.transport = Loopback.transport)
    {state : State Loopback σ ξ φ} {event : Event} {rest : List Event}
    (queued : state.transport.inbound = event :: rest) :
    (server.handle event state.dequeue).transport.pending < state.transport.pending := by
  -- The event itself is off the queue, and no event comes to those behind it.
  rw [Loopback.pending, Loopback.pending, inbound_handle_of_cons inMemory queued, queued]
  exact Nat.lt_succ_of_le (List.length_filter_le ..)

/-- What becomes of a queue, event by event, once these connections were closed: an event is
dropped with its connection, or it is handled, and that may close its connection. -/
inductive Sifted (server : Dispatcher Loopback σ ξ φ) :
    (closed : List ConnectionId) → List Event → List (Moment Loopback σ ξ φ) → Prop
  | done (closed : List ConnectionId) : Sifted server closed [] []
  | dropped {closed : List ConnectionId} {queue : List Event}
    {moments : List (Moment Loopback σ ξ φ)} (event : Event)
    (gone : Loopback.outlives closed event = false) (rest : Sifted server closed queue moments) :
    Sifted server closed (event :: queue) moments
  | handled {closed : List ConnectionId} {queue : List Event}
    {moments : List (Moment Loopback σ ξ φ)} (moment : Moment Loopback σ ξ φ)
    (stays : Loopback.outlives closed moment.event = true)
    (rest : Sifted server (closed ++ server.closings moment) queue moments) :
    Sifted server closed (moment.event :: queue) (moment :: moments)

/-- This is what the server makes of its queue. -/
theorem sifted_history (inMemory : server.transport = Loopback.transport) {queue : List Event}
    {closed : List ConnectionId} {state : State Loopback σ ξ φ}
    (queued : state.transport.inbound = queue.filter (Loopback.outlives closed)) {budget : Nat}
    (room : queue.length ≤ budget) : server.Sifted closed queue (server.history budget state) := by
  -- The induction is on the queue. What is left of it at any time are the events behind the last
  -- one that was handled, without those that were dropped.
  induction queue generalizing closed state budget with
  | nil =>
    rw [(history_of_nil inMemory budget queued).1]
    exact .done closed
  | cons event queue ih =>
    rw [List.length_cons] at room
    cases stays : Loopback.outlives closed event with
    -- The event does not stand in the queue any more, so it is not handled.
    | false =>
      rw [List.filter_cons_of_neg (by simp [stays])] at queued
      exact .dropped event stays (ih queued (by omega))
    | true =>
      -- The event stands first in what is left, so it is the next to be handled.
      rw [List.filter_cons_of_pos stays] at queued
      cases budget with
      | zero => omega
      | succ budget =>
        rw [(history_of_cons inMemory budget queued).1]
        refine .handled ⟨event, state.dequeue⟩ stays (ih ?_ (by omega))
        -- Of the events behind it, those stay that outlive its closings too.
        rw [Loopback.filter_outlives_append]
        exact inbound_handle_of_cons inMemory queued

/-- Everything in the queue is handled or dropped. -/
theorem length_history_add (inMemory : server.transport = Loopback.transport) {budget : Nat}
    {state : State Loopback σ ξ φ} (room : state.transport.pending ≤ budget) :
    (server.history budget state).length +
      ((server.history budget state).flatMap server.purged).length = state.transport.pending := by
  -- With every event that is handled the queue gets shorter, so the budget is enough to the end.
  induction budget generalizing state with
  | zero =>
    have empty : state.transport.pending = 0 := by omega
    simpa [history] using empty.symm
  | succ budget ih =>
    cases queued : state.transport.inbound with
    -- With nothing queued nothing is handled or dropped.
    | nil => simp [(history_of_nil inMemory (budget + 1) queued).1, Loopback.pending, queued]
    | cons event rest =>
      have later := ih (Nat.le_of_lt_succ (Nat.lt_of_lt_of_le
        (pending_handle_lt inMemory queued) room))
      have here : (server.handle event state.dequeue).transport.pending +
          (server.purged ⟨event, state.dequeue⟩).length + 1 = state.transport.pending := by
        -- Handling the event splits those behind it into those that stay and those that go.
        have behind : state.dequeue.transport.inbound = rest := by simp [State.dequeue, queued]
        rw [purged, behind, Loopback.pending, inbound_handle_of_cons inMemory queued,
          ← List.length_eq_length_filter_add, Loopback.pending, queued, List.length_cons]
      -- Adding the event itself, what stays and what goes gives the whole queue.
      rw [(history_of_cons inMemory budget queued).1, List.length_cons, List.flatMap_cons,
        List.length_append]
      omega

/-- More polls than there are events change nothing. -/
theorem runUntilIdle_of_more (inMemory : server.transport = Loopback.transport)
    {budget more : Nat} {state : State Loopback σ ξ φ} (room : state.transport.pending < budget)
    (wide : state.transport.pending < more) :
    server.runUntilIdle more state = server.runUntilIdle budget state := by
  -- Both numbers stay above the length of the queue, as an event less is queued at every poll.
  induction budget generalizing more state with
  | zero => omega
  | succ budget ih =>
    cases more with
    | zero => omega
    | succ more =>
      cases queued : state.transport.inbound with
      -- On an empty queue any number of polls does the same.
      | nil =>
        rw [(history_of_nil inMemory more queued).2.1, (history_of_nil inMemory budget queued).2.1]
      | cons event rest =>
        -- One event is handled on both sides, and both numbers are one smaller.
        have fewer := pending_handle_lt inMemory queued
        rw [(history_of_cons inMemory more queued).2.1,
          (history_of_cons inMemory budget queued).2.1, ih (by omega) (by omega)]

/-- An account of a queue, of which these events were handled at their places: they were handled
one by one in the order of the queue, and the others were dropped, each because its connection was
closed before or while an earlier event was handled. -/
structure Accounts (server : Dispatcher Loopback σ ξ φ) (closed : List ConnectionId)
    (queue : List Event) (handled : List (Nat × Moment Loopback σ ξ φ)) : Prop where
  ordered : handled.Pairwise fun one other => one.1 < other.1
  found : ∀ one ∈ handled, queue[one.1]? = some one.2.event
  dropped {place : Nat} {event : Event} (queued : queue[place]? = some event) :
    (∀ one ∈ handled, one.1 ≠ place) ↔ (∀ id, event ≠ .connected id) ∧
      (event.connection ∈ closed ∨
        ∃ one ∈ handled, one.1 < place ∧ event.connection ∈ server.closings one.2)

/-- An event that stands one place further back than before. -/
def back (one : Nat × Moment Loopback σ ξ φ) : Nat × Moment Loopback σ ξ φ := (one.1 + 1, one.2)

/-- Some event of those moved back is such an event if one was so before. -/
theorem exists_mem_back {handled : List (Nat × Moment Loopback σ ξ φ)}
    {holds : Nat × Moment Loopback σ ξ φ → Prop} :
    (∃ one ∈ handled.map back, holds one) ↔ ∃ one ∈ handled, holds (back one) := by
  -- An event is among those moved back exactly when it was among them before, a place earlier.
  constructor
  · rintro ⟨_, member, such⟩
    obtain ⟨one, among, rfl⟩ := List.mem_map.mp member
    exact ⟨one, among, such⟩
  · rintro ⟨one, among, such⟩
    exact ⟨back one, List.mem_map_of_mem among, such⟩

/-- What becomes of a queue can be accounted for. -/
theorem Sifted.accounts {closed : List ConnectionId} {queue : List Event}
    {moments : List (Moment Loopback σ ξ φ)} (sifted : server.Sifted closed queue moments) :
    ∃ handled, handled.map Prod.snd = moments ∧ server.Accounts closed queue handled := by
  -- Moving all places back changes neither the events nor their order.
  have names (handled : List (Nat × Moment Loopback σ ξ φ)) :
      (handled.map back).map Prod.snd = handled.map Prod.snd := by simp [back, Function.comp_def]
  have ordered {handled : List (Nat × Moment Loopback σ ξ φ)}
      (before : handled.Pairwise fun one other => one.1 < other.1) :
      (handled.map back).Pairwise fun one other => one.1 < other.1 := by
    simpa [List.pairwise_map, back] using before
  -- The rest of the queue is accounted for first, and its places move back by one.
  induction sifted with
  | done closed => exact ⟨[], rfl, .nil, by simp, by simp⟩
  | @dropped closed queue moments event gone rest ih =>
    obtain ⟨handled, same, accounts⟩ := ih
    refine ⟨handled.map back, (names handled).trans same, ordered accounts.ordered, ?_, ?_⟩
    · rw [List.forall_mem_map]
      exact accounts.found
    · intro place other queued
      rw [List.forall_mem_map, exists_mem_back]
      cases place with
      -- This one was dropped, since its connection was closed before.
      | zero =>
        obtain rfl : event = other := by simpa using queued
        obtain ⟨spoken, shut⟩ := Loopback.outlives_eq_false_iff.mp gone
        exact ⟨fun _ => ⟨spoken, .inl shut⟩, fun _ one _ => Nat.succ_ne_zero _⟩
      | succ place =>
        -- It is accounted for among the rest, one place further to the front.
        rw [List.getElem?_cons_succ] at queued
        simpa [back] using accounts.dropped queued
  | @handled closed queue moments moment stays rest ih =>
    obtain ⟨handled, same, accounts⟩ := ih
    refine ⟨(0, moment) :: handled.map back, by rw [List.map_cons, names, same], ?_, ?_, ?_⟩
    -- The first of the queue is handled before those behind it.
    · rw [List.pairwise_cons, List.forall_mem_map]
      exact ⟨fun one _ => Nat.succ_pos _, ordered accounts.ordered⟩
    · rw [List.forall_mem_cons, List.forall_mem_map]
      exact ⟨rfl, accounts.found⟩
    · intro place other queued
      rw [List.forall_mem_cons, List.forall_mem_map, List.exists_mem_cons_iff, exists_mem_back]
      cases place with
      | zero =>
        -- This event is handled, and it was not dropped, as it outlives what was closed.
        obtain rfl : moment.event = other := by simpa using queued
        have kept : ¬ ((∀ id, moment.event ≠ .connected id) ∧ moment.event.connection ∈ closed) :=
          fun gone => by simp [Loopback.outlives_eq_false_iff.mpr gone] at stays
        simpa [back] using kept
      | succ place =>
        -- What the first event closed was closed for all those behind it.
        rw [List.getElem?_cons_succ] at queued
        simpa [back, or_assoc] using accounts.dropped queued

end Idling

/-- A server in memory empties its queue, whatever it holds and whatever is queued. The events that
it handles are counted, and they are handled one by one in the order of the queue. All others are
dropped, and those are the ones whose connection was closed while they were queued, except that the
news of a connection is never dropped. -/
theorem idle_accounts (crypto : Primitives σ) (invoker : Invoker ξ φ) (secret : SecretKey)
    (table : RegionTable) (pollInterval : Duration) (state : State Loopback σ ξ φ) :
    let server := onLoopback crypto invoker secret table pollInterval
    let queue := state.transport.inbound
    let moments := server.history (queue.length + 1) state
    let final := (server.runUntilIdle (queue.length + 1) state).2
    -- One poll more than there are events is enough, and more polls than that change nothing.
    (∀ extra, server.runUntilIdle (queue.length + 1 + extra) state =
      (some (.ok moments.length), final)) ∧
    final.transport.inbound = [] ∧ server.Run state moments final ∧
    moments.length ≤ queue.length ∧
    moments.length + (moments.flatMap server.purged).length = queue.length ∧
    -- What is dropped while an event is handled is dropped with the connections closed then.
    (∀ moment, (server.after moment).transport.inbound = moment.state.transport.inbound.filter
        (Loopback.outlives (server.closings moment))) ∧
    ∃ handled : List (Nat × Moment Loopback σ ξ φ), handled.map Prod.snd = moments ∧
      (handled.Pairwise fun one other => one.1 < other.1) ∧
      (∀ one ∈ handled, queue[one.1]? = some one.2.event) ∧
      ∀ place event, queue[place]? = some event →
        ((∀ one ∈ handled, one.1 ≠ place) ↔ (∀ id, event ≠ .connected id) ∧
          ∃ one ∈ handled, one.1 < place ∧ event.connection ∈ server.closings one.2) := by
  -- Handled and dropped together make up the queue, which bounds what is handled.
  intro server queue moments final
  have inMemory : server.transport = Loopback.transport := rfl
  have room : state.transport.pending < queue.length + 1 := Nat.lt_succ_self _
  obtain ⟨ends, empty⟩ := runUntilIdle_of_room inMemory room
  have last : final = (server.steps (queue.length + 1) state).2 := congrArg Prod.snd ends
  have whole := length_history_add inMemory (Nat.le_of_lt room)
  -- At the start nothing was closed, so all of the queue is there.
  have queued : state.transport.inbound = queue.filter (Loopback.outlives []) :=
    (List.filter_eq_self.mpr fun _ _ => rfl).symm
  obtain ⟨handled, same, accounts⟩ := (sifted_history inMemory queued (Nat.le_succ _)).accounts
  refine ⟨fun extra => ?_, last ▸ empty, last ▸ server.run_steps _ state, ?_, whole,
    inbound_after inMemory, handled, same, accounts.ordered, accounts.found,
    fun place event queued => ?_⟩
  · rw [runUntilIdle_of_more inMemory room (by omega), last, ends]
  · exact Nat.le_of_add_right_le (Nat.le_of_eq whole)
  · simpa using accounts.dropped queued

end Dispatcher

end CallGate
