import CallGate.Proofs.Dispatcher.Parallel

/-! Connections are isolated: what one of them experiences is decided by what is done on it. -/

namespace CallGate

namespace Dispatcher

variable {τ σ ξ φ : Type}

section TwoRuns

variable {server : Dispatcher Loopback σ ξ φ} {id : ConnectionId}
  {left right next other : State Loopback σ ξ φ}

/-- What handling an event leaves on the queue was there before. -/
theorem inbound_handle (inMemory : server.transport = Loopback.transport) (event : Event)
    (state : State Loopback σ ξ φ) :
    (server.handle event state).transport.inbound.Sublist state.transport.inbound := by
  -- Handling an event sends and closes, and neither puts anything on the queue.
  refine server.transport_handle state
    (fun transport => transport.inbound.Sublist state.transport.inbound) ?_ ?_
    (List.Sublist.refl _)
  · intro packet transport kept
    rw [inMemory]
    show (transport.send event.connection packet).2.inbound.Sublist _
    rwa [Loopback.inbound_send]
  · intro transport kept
    rw [inMemory]
    exact List.filter_sublist.trans kept

/-- What was sent stays sent. -/
theorem sentTo_handle (inMemory : server.transport = Loopback.transport)
    (moment : Moment Loopback σ ξ φ) :
    (server.after moment).transport.sentTo id =
      moment.state.transport.sentTo id ++ server.handed id moment := by
  -- Whatever handling the event does, each send adds behind what was sent before.
  have grown : ∃ more, (server.after moment).transport.sentTo id =
      moment.state.transport.sentTo id ++ more := by
    refine server.transport_handle moment.state
      (fun transport => ∃ more, transport.sentTo id = moment.state.transport.sentTo id ++ more)
      ?_ ?_ ⟨[], by simp⟩
    · rintro packet transport ⟨more, grown⟩
      rw [inMemory]
      show ∃ more, (transport.send _ _).2.sentTo id = _
      rw [Loopback.sentTo_send, grown, List.append_assoc]
      exact ⟨_, rfl⟩
    · rintro transport kept
      rw [inMemory]
      exact kept
  obtain ⟨more, grown⟩ := grown
  -- What was handed over is by definition what was added.
  rw [handed, grown, List.drop_left]

/-- An event on another connection changes nothing for this one, and sends nothing on it. -/
theorem handle_of_other (inMemory : server.transport = Loopback.transport) {event : Event}
    (state : State Loopback σ ξ φ) (other : event.connection ≠ id) :
    Alike id (server.handle event state) state ∧ server.handed id ⟨event, state⟩ = [] := by
  -- Sending and closing on the other connection leave this one's line as it is.
  have kept : (server.handle event state).transport.line id = state.transport.line id ∧
      (server.handle event state).transport.sentTo id = state.transport.sentTo id := by
    refine server.transport_handle state (fun transport =>
      transport.line id = state.transport.line id ∧
        transport.sentTo id = state.transport.sentTo id) ?_ ?_ ⟨rfl, rfl⟩
    · rintro packet transport ⟨line, sent⟩
      rw [inMemory]
      show (transport.send _ _).2.line id = _ ∧ (transport.send _ _).2.sentTo id = _
      rw [Loopback.line_send, Loopback.sentTo_send, line, sent]
      simp [other]
    · rintro transport ⟨line, sent⟩
      rw [inMemory]
      show (transport.disconnect _).line id = _ ∧ _
      rw [Loopback.line_disconnect, if_neg other]
      exact ⟨line, sent⟩
  -- The entry is that of before, since events change the entry of their own connection only.
  refine ⟨⟨get?_handle_of_ne server state other, kept.1⟩, ?_⟩
  rw [handed, after, kept.2, List.drop_length]

/-- The packets that are sent on a connection while an event is handled, as its client reads
them. -/
def replies (server : Dispatcher Loopback σ ξ φ) (id : ConnectionId)
    (moment : Moment Loopback σ ξ φ) : List Reply :=
  (server.handed id moment).map (server.reading id moment.state)

/-- Two servers side by side send replies that read alike. -/
theorem Parallel.replies {event : Event}
    (parallel : server.Parallel id left right (server.handle event left)
      (server.handle event right)) :
    server.replies id ⟨event, left⟩ = server.replies id ⟨event, right⟩ ∧
      ∀ reply ∈ server.replies id ⟨event, left⟩,
        reply.Legible (Handshake.hello server.keys).encode := by
  -- Both lists of packets are read, packet by packet, to the same replies.
  obtain ⟨first, second, grown, grown', same, legible⟩ := parallel.answered
  have one : server.handed id ⟨event, left⟩ = first := by
    rw [handed, after, grown, List.drop_left]
  have two : server.handed id ⟨event, right⟩ = second := by
    rw [handed, after, grown', List.drop_left]
  rw [Dispatcher.replies, Dispatcher.replies, one, two]
  exact ⟨same, by simpa using legible⟩

/-- The moments of a run that happen on the connection. -/
def own (id : ConnectionId) (moments : List (Moment τ σ ξ φ)) : List (Moment τ σ ξ φ) :=
  moments.filter fun moment => moment.event.connection = id

/-- The server handles everything that is queued. -/
def settle (server : Dispatcher Loopback σ ξ φ) (state : State Loopback σ ξ φ) :
    List (Moment Loopback σ ξ φ) × State Loopback σ ξ φ :=
  (server.history (state.transport.pending + 1) state,
    (server.runUntilIdle (state.transport.pending + 1) state).2)

/-- What a server in memory holds when it has taken the first event off its queue. -/
def State.dequeue (state : State Loopback σ ξ φ) : State Loopback σ ξ φ :=
  { state with
    transport := { state.transport with inbound := state.transport.inbound.tail } }

/-- A connection sees the events of its own being polled. -/
theorem line_dequeue {state : State Loopback σ ξ φ} {event : Event} {rest : List Event}
    (queued : state.transport.inbound = event :: rest) (id : ConnectionId) :
    state.dequeue.transport.line id =
      if event.connection = id then (state.transport.line id).poll
      else state.transport.line id := by
  -- Either the event is the first on the line, or the line does not see it.
  by_cases own : event.connection = id <;>
    simp [State.dequeue, Loopback.line, Line.poll, queued, own, Loopback.isOpen,
      Loopback.wasDropped]

/-- A server in memory that has something queued takes it up, however it polls. -/
theorem history_of_cons (inMemory : server.transport = Loopback.transport) (budget : Nat)
    {state : State Loopback σ ξ φ} {event : Event} {rest : List Event}
    (queued : state.transport.inbound = event :: rest) :
    server.history (budget + 1) state =
        ⟨event, state.dequeue⟩ :: server.history budget (server.handle event state.dequeue) ∧
      server.runUntilIdle (budget + 1) state =
        ((server.runUntilIdle budget (server.handle event state.dequeue)).1.map (·.map (· + 1)),
          (server.runUntilIdle budget (server.handle event state.dequeue)).2) ∧
      server.steps (budget + 1) state =
        server.steps budget (server.handle event state.dequeue) := by
  -- One poll takes the first event off, and everything else follows from its handling.
  simp [history, runUntilIdle, steps, step, polled, after, inMemory, Loopback.transport,
    Loopback.poll, queued, State.dequeue]

/-- A server in memory that has nothing queued stays as it is. -/
theorem history_of_nil (inMemory : server.transport = Loopback.transport) (budget : Nat)
    {state : State Loopback σ ξ φ} (queued : state.transport.inbound = []) :
    server.history budget state = [] ∧
      server.runUntilIdle (budget + 1) state = (some (.ok 0), state) ∧
      server.steps budget state = (none, state) := by
  -- The poll finds nothing and leaves the transport alone.
  have came : server.transport.poll server.pollInterval state.transport =
      (.ok none, state.transport) := by
    simp [inMemory, Loopback.transport, Loopback.poll, queued]
  refine ⟨?_, by simp [runUntilIdle, step, came], ?_⟩
  -- Polling an empty queue leaves the server as it is, so the next poll is as idle.
  · induction budget with
    | zero => rfl
    | succ budget ih => simp [history, polled, came, ih]
  · induction budget with
    | zero => rfl
    | succ budget ih => simp [steps, step, came, ih]

/-- Polling until the queue is empty handles everything in it, and the transport never fails. -/
theorem runUntilIdle_of_room (inMemory : server.transport = Loopback.transport) {budget : Nat}
    {state : State Loopback σ ξ φ} (room : state.transport.pending < budget) :
    server.runUntilIdle budget state =
        (some (.ok (server.history budget state).length), (server.steps budget state).2) ∧
      (server.steps budget state).2.transport.inbound = [] := by
  -- The induction is on the budget, which is larger than the queue is long.
  induction budget generalizing state with
  | zero => omega
  | succ budget ih =>
    cases queued : state.transport.inbound with
    | nil =>
      obtain ⟨course, _, polls⟩ := history_of_nil inMemory (budget + 1) queued
      obtain ⟨_, ends, _⟩ := history_of_nil inMemory budget queued
      rw [course, ends, polls]
      exact ⟨rfl, queued⟩
    | cons event rest =>
      -- What the event leaves on the queue is no more than what stood behind it.
      obtain ⟨course, ends, polls⟩ := history_of_cons inMemory budget queued
      obtain ⟨rests, empty⟩ := ih (Nat.lt_of_le_of_lt
        (inbound_handle inMemory event state.dequeue).length_le
        (by simpa [State.dequeue, Loopback.pending, queued] using room))
      rw [course, ends, polls, rests]
      exact ⟨rfl, empty⟩

/-- Settling is to poll as often as there are events, and once more. -/
theorem settle_eq (inMemory : server.transport = Loopback.transport)
    (state : State Loopback σ ξ φ) :
    server.settle state = (server.history (state.transport.pending + 1) state,
      (server.steps (state.transport.pending + 1) state).2) := by
  -- The polls end after one event less than there is room for, so the end is there.
  rw [settle, (runUntilIdle_of_room inMemory (Nat.lt_succ_self _)).1]

/-- After settling, nothing is queued. -/
theorem inbound_settle (inMemory : server.transport = Loopback.transport)
    (state : State Loopback σ ξ φ) : (server.settle state).2.transport.inbound = [] := by
  -- There is one poll more than there are events, so the queue is empty in the end.
  rw [settle_eq inMemory]
  exact (runUntilIdle_of_room inMemory (Nat.lt_succ_self _)).2

/-- The entries that the events of a connection make. -/
def entriesOf (server : Dispatcher τ σ ξ φ) (id : ConnectionId)
    (moments : List (Moment τ σ ξ φ)) : List Entry :=
  (own id moments).filterMap server.entered?

/-- What the client of a connection gets to read. -/
def repliesOf (server : Dispatcher Loopback σ ξ φ) (id : ConnectionId)
    (moments : List (Moment Loopback σ ξ φ)) : List Reply :=
  (own id moments).flatMap (server.replies id)

/-- Two courses of events end alike, and the connection experiences the same in both. -/
structure Accord (server : Dispatcher Loopback σ ξ φ) (id : ConnectionId)
    (one two : List (Moment Loopback σ ξ φ) × State Loopback σ ξ φ) : Prop where
  alike : Alike id one.2 two.2
  entries : server.entriesOf id one.1 = server.entriesOf id two.1
  replies : server.repliesOf id one.1 = server.repliesOf id two.1

/-- What happens on another connection in between makes no difference. -/
theorem Accord.skip {moment : Moment Loopback σ ξ φ} {moments : List (Moment Loopback σ ξ φ)}
    {two : List (Moment Loopback σ ξ φ) × State Loopback σ ξ φ}
    (other : moment.event.connection ≠ id) (accord : server.Accord id (moments, next) two) :
    server.Accord id (moment :: moments, next) two := by
  -- The event is not among those of the connection, so neither its entries nor its replies are.
  have same : own id (moment :: moments) = own id moments := by simp [own, other]
  exact ⟨accord.alike, by simpa only [entriesOf, same] using accord.entries,
    by simpa only [repliesOf, same] using accord.replies⟩

/-- The same event on the connection comes first in both courses. -/
theorem Accord.cons {event : Event} (own : event.connection = id)
    {moments moments' : List (Moment Loopback σ ξ φ)}
    (entered : server.entered? ⟨event, left⟩ = server.entered? ⟨event, right⟩)
    (replied : server.replies id ⟨event, left⟩ = server.replies id ⟨event, right⟩)
    (accord : server.Accord id (moments, next) (moments', other)) :
    server.Accord id (⟨event, left⟩ :: moments, next) (⟨event, right⟩ :: moments', other) where
  alike := accord.alike
  -- The entry of the event stands in front of those of the rest, in both courses.
  entries := by
    have rest := accord.entries
    simp only [entriesOf, Dispatcher.own, own, decide_true, List.filter_cons_of_pos,
      List.filterMap_cons, entered] at rest ⊢
    rw [rest]
  -- So do its replies.
  replies := by
    have rest := accord.replies
    simp only [repliesOf, Dispatcher.own, own, decide_true, List.filter_cons_of_pos,
      List.flatMap_cons, replied] at rest ⊢
    rw [rest]

/-- What follows one accord in another keeps both. -/
theorem Accord.append {one two : List (Moment Loopback σ ξ φ)}
    {later later' : List (Moment Loopback σ ξ φ)} {last final : State Loopback σ ξ φ}
    (first : server.Accord id (one, next) (two, other))
    (second : server.Accord id (later, last) (later', final)) :
    server.Accord id (one ++ later, last) (two ++ later', final) where
  alike := second.alike
  -- Entries and replies of a whole course are those of its parts, one after the other.
  entries := by
    have parts := congrArg₂ List.append first.entries second.entries
    simpa [entriesOf, own] using parts
  replies := by
    have parts := congrArg₂ List.append first.replies second.replies
    simpa [repliesOf, own] using parts

/-- One server has its queue to itself, and the other one has others in between. -/
theorem Alike.settle (inMemory : server.transport = Loopback.transport)
    (steady : server.crypto.Steady) (constant : server.invoker.Steady) {budget space : Nat}
    (alike : Alike id left right) (room : left.transport.pending < budget)
    (solo : ∀ event ∈ right.transport.inbound, event.connection = id)
    (spare : right.transport.pending < space) :
    server.Accord id (server.history budget left, (server.runUntilIdle budget left).2)
      (server.history space right, (server.runUntilIdle space right).2) := by
  -- The induction follows the longer queue, in which the other one's events are found again.
  induction budget generalizing left right space with
  | zero => omega
  | succ budget ih =>
    obtain ⟨space, rfl⟩ : ∃ less, space = less + 1 := ⟨space - 1, by omega⟩
    -- All that stands in the shorter queue is on the connection, so it is what is left of the
    -- other.
    have coming : left.transport.inbound.filter (fun event => event.connection = id) =
        right.transport.inbound :=
      (congrArg Line.coming alike.line).trans
        (List.filter_eq_self.mpr fun event member => decide_eq_true (solo event member))
    cases queued : left.transport.inbound with
    | nil =>
      -- Nothing is queued for either.
      have empty : right.transport.inbound = [] := by rw [← coming, queued]; rfl
      rw [(history_of_nil inMemory (budget + 1) queued).1,
        (history_of_nil inMemory budget queued).2.1,
        (history_of_nil inMemory (space + 1) empty).1,
        (history_of_nil inMemory space empty).2.1]
      exact ⟨alike, rfl, rfl⟩
    | cons event rest =>
      obtain ⟨course, ends, _⟩ := history_of_cons inMemory budget queued
      rw [course, ends]
      have room : (server.handle event left.dequeue).transport.pending < budget :=
        Nat.lt_of_le_of_lt (inbound_handle inMemory event left.dequeue).length_le
          (by simpa [State.dequeue, Loopback.pending, queued] using room)
      by_cases own : event.connection = id
      · -- The other server takes up the same event, and has fewer of its own left behind it.
        have next : right.transport.inbound = event ::
            rest.filter fun event => event.connection = id := by
          rw [← coming, queued, List.filter_cons_of_pos (by simpa using own)]
        obtain ⟨course', ends', _⟩ := history_of_cons inMemory space next
        rw [course', ends']
        have level : Alike id left.dequeue right.dequeue :=
          ⟨alike.phase, by rw [line_dequeue queued, line_dequeue next, alike.line]⟩
        have parallel := level.handle inMemory steady constant own
        have left := inbound_handle inMemory event right.dequeue
        refine .cons own (level.entered? steady constant own) parallel.replies.1
          (ih parallel.alike room (fun event member => ?_) ?_)
        · exact solo event (List.mem_of_mem_tail (left.mem member))
        -- One event was taken up, and none came to those that were behind it.
        · exact Nat.lt_of_le_of_lt left.length_le
            (by simpa [State.dequeue, Loopback.pending, next] using spare)
      · -- The event is none of the connection's business, so the other server stays where it is.
        obtain ⟨unmoved, _⟩ := handle_of_other inMemory left.dequeue own
        refine .skip own (ih ⟨unmoved.phase.trans alike.phase, ?_⟩ room solo spare)
        rw [unmoved.line, line_dequeue queued, if_neg own, alike.line]

end TwoRuns

/-- When the server gets to handle what is queued. -/
inductive Pacing where
  /-- Behind the whole script. -/
  | whole
  /-- Behind each act. -/
  | stepwise
  deriving DecidableEq, Repr

/-- What is done in a script, up to each time the server gets to handle it. -/
def Pacing.rounds : Pacing → List Act → List (List Act)
  | whole, script => [script]
  | stepwise, script => script.map fun act => [act]

/-- Acts are done on the loopback of a server. -/
def State.enacting (state : State Loopback σ ξ φ) (acts : List Act) : State Loopback σ ξ φ :=
  { state with transport := acts.foldl Loopback.act state.transport }

/-- A round of acts is done, the server runs until it is idle, and so on. Yields what is handled
meanwhile. -/
def follow (server : Dispatcher Loopback σ ξ φ) : (rounds : List (List Act)) →
    State Loopback σ ξ φ → List (Moment Loopback σ ξ φ) × State Loopback σ ξ φ
  | [], state => ([], state)
  | round :: rounds, state =>
    let (moments, settled) := server.settle (state.enacting round)
    let (later, final) := follow server rounds settled
    (moments ++ later, final)

/-- What is done on one connection in each round in which anything is. -/
def purge (id : ConnectionId) (rounds : List (List Act)) : List (List Act) :=
  (rounds.map (List.filter fun act => act.connection = id)).filter (· ≠ [])

/-- Scripts that agree on a connection are the same once all others are left out. -/
theorem purge_rounds {id : ConnectionId} (pacing : Pacing) {left right : List Act}
    (same : left.filter (fun act => act.connection = id) =
      right.filter fun act => act.connection = id) :
    purge id (pacing.rounds left) = purge id (pacing.rounds right) := by
  -- The script is one round as a whole, or one round for each act.
  cases pacing with
  | whole => simp only [purge, Pacing.rounds, List.map_cons, List.map_nil, same]
  | stepwise =>
    -- One round is left for each act on the connection, and none for any other act.
    have single (script : List Act) : purge id (Pacing.stepwise.rounds script) =
        (script.filter fun act => act.connection = id).map fun act => [act] := by
      induction script with
      | nil => rfl
      | cons act script ih =>
        -- An act on another connection leaves an empty round, which is left out.
        by_cases own : act.connection = id
        · simpa [purge, Pacing.rounds, own] using ih
        · simpa [purge, Pacing.rounds, own] using ih
    rw [single, single, same]

section Following

variable {server : Dispatcher Loopback σ ξ φ} {id : ConnectionId}
  {left right : State Loopback σ ξ φ}

/-- Doing the same on a connection leaves it alike. -/
theorem Alike.enacting (alike : Alike id left right) {acts others : List Act}
    (same : acts.filter (fun act => act.connection = id) =
      others.filter fun act => act.connection = id) :
    Alike id (left.enacting acts) (right.enacting others) :=
  -- A line sees the acts on its own connection only.
  ⟨alike.phase, by rw [State.enacting, State.enacting, Loopback.line_acts, Loopback.line_acts,
    alike.line, same]⟩

/-- A script and what is left of it for one connection are in accord about this connection. -/
theorem Alike.follow (inMemory : server.transport = Loopback.transport)
    (steady : server.crypto.Steady) (constant : server.invoker.Steady)
    (alike : Alike id left right) (idle : right.transport.inbound = [])
    (rounds : List (List Act)) :
    server.Accord id (server.follow rounds left) (server.follow (purge id rounds) right) := by
  -- The induction is on the rounds, and the other server has an empty queue between them.
  induction rounds generalizing left right with
  | nil => exact ⟨alike, rfl, rfl⟩
  | cons round rounds ih =>
    -- Leaving out the acts on other connections twice is doing it once.
    have fewer : (round.filter fun act => act.connection = id).filter
        (fun act => act.connection = id) = round.filter fun act => act.connection = id := by
      simp
    have level := alike.enacting fewer.symm
    -- What is done on the connection leaves the other server with nothing but its events.
    have solo : ∀ event ∈ (right.enacting
        (round.filter fun act => act.connection = id)).transport.inbound,
        event.connection = id :=
      Loopback.solo_acts (by simp [idle]) (by simp)
    have settled := level.settle inMemory steady constant (Nat.lt_succ_self _) solo
      (Nat.lt_succ_self _)
    by_cases none : round.filter (fun act => act.connection = id) = []
    · -- Nothing is done on the connection, and the other server has no such round.
      have skipped : purge id (round :: rounds) = purge id rounds := by simp [purge, none]
      have unmoved : right.enacting [] = right := rfl
      rw [none, unmoved, (history_of_nil inMemory _ idle).1,
        (history_of_nil inMemory _ idle).2.1] at settled
      rw [skipped]
      exact settled.append (ih settled.alike idle)
    · have kept : purge id (round :: rounds) =
          (round.filter fun act => act.connection = id) :: purge id rounds := by
        simp [purge, none]
      rw [kept]
      exact settled.append (ih settled.alike (inbound_settle inMemory _))

/-- Whatever is sent in a run is sent while one of its events is handled. -/
theorem Run.sentTo (inMemory : server.transport = Loopback.transport) {id : ConnectionId}
    {state final : State Loopback σ ξ φ} {moments : List (Moment Loopback σ ξ φ)}
    (run : server.Run state moments final) :
    final.transport.sentTo id =
      state.transport.sentTo id ++ moments.flatMap (server.handed id) := by
  -- Polling takes an event off the queue and leaves what was sent alone.
  have quiet (state : State Loopback σ ξ φ) :
      (server.polled state).transport.sentTo id = state.transport.sentTo id := by
    rw [polled, inMemory]
    show (state.transport.poll).2.sentTo id = _
    unfold Loopback.poll
    split <;> rfl
  -- Each event adds what it hands over, which is summed up along the run.
  have extended (moment : Moment Loopback σ ξ φ) :
      (server.after moment).transport.sentTo id =
        moment.state.transport.sentTo id ++ server.handed id moment :=
    sentTo_handle inMemory moment
  exact run.grows (fun state => state.transport.sentTo id) quiet extended

/-- Nothing is sent on a connection while others have their turn. -/
theorem handed_own (inMemory : server.transport = Loopback.transport) (id : ConnectionId)
    (moments : List (Moment Loopback σ ξ φ)) :
    moments.flatMap (server.handed id) = (own id moments).flatMap (server.handed id) := by
  -- An event on another connection hands over nothing on this one.
  induction moments with
  | nil => rfl
  | cons moment moments ih =>
    by_cases mine : moment.event.connection = id
    · simp only [own, mine, decide_true, List.filter_cons_of_pos, List.flatMap_cons] at ih ⊢
      rw [ih]
    · have nothing := (handle_of_other inMemory moment.state mine).2
      have same : own id (moment :: moments) = own id moments := by simp [own, mine]
      rw [List.flatMap_cons, same, ← ih]
      exact congrArg (· ++ _) nothing

/-- Everything that is on its way to a client was sent in one of its own turns. -/
theorem sentTo_follow (inMemory : server.transport = Loopback.transport) (id : ConnectionId)
    (rounds : List (List Act)) (state : State Loopback σ ξ φ) :
    (server.follow rounds state).2.transport.sentTo id =
      state.transport.sentTo id ++ (server.follow rounds state).1.flatMap (server.handed id) := by
  -- Each round is a run from where the acts have left the server.
  induction rounds generalizing state with
  | nil => simp [Dispatcher.follow]
  | cons round rounds ih =>
    have run : server.Run (state.enacting round) (server.settle (state.enacting round)).1
        (server.settle (state.enacting round)).2 := by
      rw [settle_eq inMemory]
      exact server.run_steps _ _
    have settled : (server.settle (state.enacting round)).2.transport.sentTo id = _ :=
      run.sentTo inMemory
    rw [State.enacting, Loopback.sentTo_acts] at settled
    simp only [Dispatcher.follow, State.enacting, ih, settled, List.flatMap_append,
      List.append_assoc]

/-- The entries of a script are those of the events that are handled in it. -/
theorem follow_recordingEntries (inMemory : server.transport = Loopback.transport)
    (rounds : List (List Act)) (state : State Loopback σ ξ φ) (entries : List Entry) :
    (server.recordingEntries.follow rounds (state.recording entries)).2 =
      (server.follow rounds state).2.recording
        (entries ++ (server.follow rounds state).1.filterMap server.entered?) := by
  -- The induction is on the rounds. Noting the entries made in one leaves the next as it was.
  induction rounds generalizing state entries with
  | nil => simp [Dispatcher.follow]
  | cons round rounds ih =>
    -- The noting server has the same transport, so it settles in the same number of polls.
    have inMemory' : server.recordingEntries.transport = Loopback.transport := inMemory
    have noted := server.steps_recordingEntries
      ((state.enacting round).transport.pending + 1) (state.enacting round) entries
    have settled : (server.recordingEntries.settle ((state.recording entries).enacting round)).2 =
        (server.settle (state.enacting round)).2.recording
          (entries ++ (server.settle (state.enacting round)).1.filterMap server.entered?) := by
      rw [settle_eq inMemory, settle_eq inMemory']
      exact congrArg Prod.snd noted
    simp only [Dispatcher.follow, settled, ih, List.filterMap_append, List.append_assoc]

/-- Every packet that is sent on a connection is a greeting, or an answer that its client opens. -/
theorem legible_replies (inMemory : server.transport = Loopback.transport)
    (steady : server.crypto.Steady) (constant : server.invoker.Steady)
    (id : ConnectionId) (moment : Moment Loopback σ ξ φ) :
    ∀ reply ∈ server.replies id moment,
      reply.Legible (Handshake.hello server.keys).encode := by
  -- A state is alike to itself, so what holds of two servers side by side holds of the one.
  obtain ⟨event, state⟩ := moment
  by_cases own : event.connection = id
  · have itself : Alike id state state := ⟨rfl, rfl⟩
    exact (itself.handle inMemory steady constant own).replies.2
  · rw [replies, (handle_of_other inMemory state own).2]
    simp

end Following

/-- Everything that one connection experiences while a script is run. -/
structure Experience where
  phase : Option Phase
  opened : Bool
  dropped : Bool
  /-- The regions entered on behalf of the connection, and the register files they got. -/
  entries : List Entry
  /-- The packets sent on the connection. -/
  replies : List Reply

/-- What a connection experiences while the rounds of a script are run. -/
def experience (server : Dispatcher Loopback σ ξ φ) (id : ConnectionId)
    (rounds : List (List Act)) (state : State Loopback σ ξ φ) : Experience :=
  let (moments, final) := server.follow rounds state
  { phase := final.connections.get? id
    opened := final.transport.isOpen id
    dropped := final.transport.wasDropped id
    entries := server.entriesOf id moments
    replies := server.repliesOf id moments }

/-- What a connection experiences is what it would experience alone. -/
theorem experience_purge {server : Dispatcher Loopback σ ξ φ}
    (inMemory : server.transport = Loopback.transport) (steady : server.crypto.Steady)
    (constant : server.invoker.Steady) (id : ConnectionId) {state : State Loopback σ ξ φ}
    (idle : state.transport.inbound = []) (rounds : List (List Act)) :
    server.experience id rounds state = server.experience id (purge id rounds) state := by
  -- The state is alike to itself, and what is left of the script leads to an alike one.
  have itself : Alike id state state := ⟨rfl, rfl⟩
  obtain ⟨alike, entries, replies⟩ := itself.follow inMemory steady constant idle rounds
  -- Of the two lines, only whether the connection is open and was dropped is experienced.
  have opened := congrArg Line.opened alike.line
  have dropped := congrArg Line.dropped alike.line
  simp only [Loopback.line] at opened dropped
  simp only [experience, alike.phase, opened, dropped, entries, replies]

/-- Connections do not disturb each other: what one of them experiences in a script depends on
nothing but what is done on it, as long as the server gets its turns at the same pace.

Primitives and regions answer by their arguments. What is assumed beyond that is in
`Primitives.Steady`, whose nonces decide nothing and whose ciphertexts can be decrypted, and in
`Invoker.Steady`, whose server keeps its own flags outside the status bits. -/
theorem experience_of_script (crypto : Primitives σ) (invoker : Invoker ξ φ) (secret : SecretKey)
    (table : RegionTable) (wait : Duration) (supply : σ) (first : Invoker.State ξ φ)
    (log : List Notice) (steady : crypto.Steady) (constant : invoker.Steady) (id : ConnectionId) :
    let server := onLoopback crypto invoker secret table wait
    let start := State.onLoopback supply first log
    (∀ (pacing : Pacing) (left right : List Act),
      left.filter (fun act => act.connection = id) =
          right.filter (fun act => act.connection = id) →
        server.experience id (pacing.rounds left) start =
          server.experience id (pacing.rounds right) start) ∧
      (∀ rounds : List (List Act),
        let (moments, final) := server.follow rounds start
        -- The replies are all that is sent, and the entries are all that are made.
        final.transport.sentTo id = (own id moments).flatMap (server.handed id) ∧
          (∀ reply ∈ server.repliesOf id moments,
            reply.Legible (Handshake.hello server.keys).encode) ∧
          (server.recordingEntries.follow rounds (start.recording [])).2.invoker.trampoline.2 =
            moments.filterMap server.entered?) ∧
      (∀ state : State Loopback σ ξ φ, ∃ handled,
        (server.runUntilIdle (state.transport.pending + 1) state).1 = some (.ok handled)) ∧
      ∀ (τ : Type) (other : Dispatcher τ σ ξ φ) (state : State τ σ ξ φ) (error : TransportError),
        (other.step state).1 = .error error ↔
          (other.transport.poll other.pollInterval state.transport).1 = .error error := by
  intro server start
  -- The four parts: the scripts, the replies, the polls to the end, and failures of the transport.
  have inMemory : server.transport = Loopback.transport := rfl
  refine ⟨?_, ?_, ?_, ?_⟩
  · intro pacing left right same
    -- Both scripts leave the connection with what it would experience alone.
    have alone (rounds : List (List Act)) : server.experience id rounds start =
        server.experience id (purge id rounds) start :=
      experience_purge inMemory steady constant id rfl rounds
    calc server.experience id (pacing.rounds left) start
        = server.experience id (purge id (pacing.rounds left)) start := alone _
      _ = server.experience id (purge id (pacing.rounds right)) start := by
        rw [purge_rounds pacing same]
      _ = server.experience id (pacing.rounds right) start := (alone _).symm
  · intro rounds
    refine ⟨?_, ?_, ?_⟩
    -- All that is sent is handed over in turns of the connection.
    · have sent := sentTo_follow inMemory id rounds start
      rwa [handed_own inMemory] at sent
    · intro reply member
      obtain ⟨moment, _, given⟩ := List.mem_flatMap.mp member
      exact legible_replies inMemory steady constant id moment reply given
    · rw [follow_recordingEntries inMemory]
      rfl
  · intro state
    -- One poll more than there are events is enough.
    exact ⟨_, congrArg Prod.fst (runUntilIdle_of_room inMemory (Nat.lt_succ_self _)).1⟩
  · intro τ other state error
    -- Handling an event never fails a step, only the poll does.
    rcases came : other.transport.poll other.pollInterval state.transport with
      ⟨_ | _ | _, transport⟩ <;> simp [step, came]

/-- Over the standard primitives, a client that connects is greeted, whatever a second one sends and
a third one suffers. Over primitives that hide nothing, a client shakes hands and has a region add
to a register, and the others make no difference to what it reads. -/
theorem experience_of_request :
    let greeting := onLoopback .standard .idle ⟨.replicate 32 1⟩ ⟨[default]⟩ ⟨0⟩
    let serving := onLoopback .plain .adding ⟨.replicate 32 1⟩ ⟨[default]⟩ ⟨0⟩
    let hello := (Handshake.hello (.ofSecret .plain ⟨.replicate 32 2⟩)).encode
    let request := (⟨.execute, default, ({ rax := 7 } : RegisterFile).toBytes, default⟩ :
      Envelope).encode
    let calm : List Act := [.happens (.connected ⟨1⟩), .happens (.received ⟨1⟩ hello),
      .happens (.received ⟨1⟩ request)]
    let busy : List Act := [.happens (.connected ⟨2⟩), .happens (.connected ⟨1⟩),
      .happens (.received ⟨2⟩ hello), .happens (.received ⟨1⟩ hello), .failing ⟨2⟩,
      .happens (.received ⟨2⟩ request), .happens (.received ⟨1⟩ request)]
    let start := State.onLoopback () ⟨.start (), ()⟩ []
    let seen := serving.experience ⟨1⟩ (Pacing.stepwise.rounds busy) start
    (∀ pacing : Pacing,
      greeting.experience ⟨1⟩ (pacing.rounds (busy.take 3)) (.onLoopback default ⟨.start (), ()⟩ [])
        = greeting.experience ⟨1⟩ (pacing.rounds (calm.take 1))
          (.onLoopback default ⟨.start (), ()⟩ [])) ∧
    (∀ pacing : Pacing, serving.experience ⟨1⟩ (pacing.rounds busy) start =
      serving.experience ⟨1⟩ (pacing.rounds calm) start) ∧
    seen.phase = some (.established ⟨default⟩) ∧
    seen.entries.map (·.file) = [{ rax := 7, rflags := 0x202 }] ∧
    seen.replies.map (·.content) = [none, some { rax := 8 }] ∧
    (serving.experience ⟨2⟩ (Pacing.stepwise.rounds busy) start).dropped = true := by
  intro greeting serving hello request calm busy start seen
  -- The two servers are given to the theorem, and what the second reads is computed.
  have greeted := (experience_of_script .standard .idle ⟨.replicate 32 1⟩ ⟨[default]⟩ ⟨0⟩ default
    ⟨.start (), ()⟩ [] Primitives.standard_steady Invoker.idle_steady ⟨1⟩).1
  have served := (experience_of_script .plain .adding ⟨.replicate 32 1⟩ ⟨[default]⟩ ⟨0⟩ ()
    ⟨.start (), ()⟩ [] Primitives.plain_steady Invoker.adding_steady ⟨1⟩).1
  exact ⟨fun pacing => greeted pacing _ _ rfl, fun pacing => served pacing busy calm rfl,
    by decide +kernel, by decide +kernel, by decide +kernel, by decide +kernel⟩

end Dispatcher

end CallGate
