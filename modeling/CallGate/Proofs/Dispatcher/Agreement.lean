import CallGate.Proofs.Dispatcher.History
import CallGate.Proofs.Dispatcher.Reception
import CallGate.Proofs.Dispatcher.View
import CallGate.Proofs.Transport.Concord

/-! A server over sockets and its transport never disagree about who is connected. -/

namespace CallGate

/-- Counting the peers of the machine shows as not counting them. -/
theorem Tcp.counted_shows {ν : Type} (network : Network ν) :
    (transport network.counted).Shows (transport network) bare where
  -- The counted network does as the network and adds a count, which forgetting takes away again.
  poll wait tcp := bare_poll network.counted_mirrors wait tcp
  send target packet tcp := bare_send network.counted_mirrors target packet tcp
  disconnect target tcp := (bare_disconnect network.counted_mirrors target tcp).symm

namespace Dispatcher

variable {τ σ ξ φ : Type}

/-- Nothing was sent on the connection, or one packet. -/
def Sends (server : Dispatcher τ σ ξ φ) (id : ConnectionId) (before after : τ) : Prop :=
  after = before ∨ ∃ packet, after = (server.transport.send id packet before).2

/-- What handling an event does to the entry and the line of its own connection. -/
inductive Handled (server : Dispatcher τ σ ξ φ) (event : Event) (state after : State τ σ ξ φ) :
    Prop
  | stays (live : event.isLive = true)
    (sent : server.Sends event.connection state.transport after.transport)
    (known : after.connections.contains event.connection = true)
  /-- It has no entry any more, unless it had one before it was greeted. -/
  | closed (live : event.isLive = true) (transport : τ)
    (sent : server.Sends event.connection state.transport transport)
    (left : after.transport = server.transport.disconnect event.connection transport)
    (gone : (event = .connected event.connection →
        state.connections.contains event.connection = false) →
      after.connections.contains event.connection = false)
  /-- The transport has told the end of the connection itself. -/
  | parted (ended : event.isLive = false) (still : after.transport = state.transport)
    (gone : after.connections.contains event.connection = false)

/-- A connection that has gone is over. -/
theorem handled_forget (server : Dispatcher τ σ ξ φ) {event : Event} (ended : event.isLive = false)
    (state : State τ σ ξ φ) (notice : Notice) :
    server.Handled event state (state.forget event.connection notice) := by
  -- An entry is removed, or there was none. In both cases nothing is left, and the transport rests.
  refine .parted ended ?_ ?_
  · unfold State.forget
    split <;> rfl
  · simp [Connections.contains, get?_forget]

/-- Handling an event comes to one of the three. -/
theorem handled_handle (server : Dispatcher τ σ ξ φ) (event : Event) (state : State τ σ ξ φ) :
    server.Handled event state (server.handle event state) := by
  -- The cases are those of an event, and within them of what came of it.
  cases event with
  | connected id =>
    cases sent : server.transport.send id (Handshake.hello server.keys).encode state.transport with
    | mk outcome transport =>
      have left : transport =
          (server.transport.send id (Handshake.hello server.keys).encode state.transport).2 := by
        rw [sent]
      simp only [handle, welcome, sent]
      cases outcome with
      -- A client that cannot be greeted gets no entry, and is closed at once.
      | error cause => exact .closed rfl transport (.inr ⟨_, left⟩) rfl fun new => new rfl
      | ok _ =>
        refine .stays rfl (.inr ⟨_, left⟩) ?_
        simp [State.note, Connections.contains, Connections.get?_insert, Event.connection]
  | received id packet =>
    have reception := server.receive_reception id packet state
    cases received : server.receive id packet state with
    | mk outcome next =>
      rw [received] at reception
      cases outcome with
      | error cause =>
        have gone :
            (server.handle (.received id packet) state).connections.contains id = false := by
          simp [Connections.contains,
            get?_handle_of_refused (congrArg Prod.fst received)]
        rw [handle_of_refused received] at gone ⊢
        -- Only an answer that could not be sent has moved the transport before the refusal.
        refine .closed rfl next.transport ?_ rfl fun _ => gone
        cases reception with
        | unsent session text opening sealing region answer invoker reply cause transport request
            found ran wrapped sent => exact .inr ⟨_, (congrArg Prod.snd sent).symm⟩
        | _ => exact .inl rfl
      | ok _ =>
        rw [handle_of_taken received]
        -- A packet is taken only on a connection with an entry, and the entry stays.
        cases reception with
        | established message session crypto waiting decoded version completed =>
          refine .stays rfl (.inl rfl) ?_
          show (state.connections.insert id _).contains id = true
          simp [Connections.contains, Connections.get?_insert]
        | served session text opening sealing region answer invoker reply transport request found
            ran wrapped sent =>
          refine .stays rfl (.inr ⟨_, (congrArg Prod.snd sent).symm⟩) ?_
          have known : state.connections.get? id = _ := request.known
          simp [Connections.contains, Event.connection, known]
  | disconnected id => exact server.handled_forget rfl state _
  | timedOut id => exact server.handled_forget rfl state _

section Running

variable {ν : Type} {network : Network ν} {server : Dispatcher (Tcp (ν × Nat)) σ ξ φ}
  (sockets : server.transport = Tcp.transport network.counted)

include sockets

/-- Sending on a connection accepts nobody. -/
theorem count_of_sends {id : ConnectionId} {before after : Tcp (ν × Nat)}
    (sent : server.Sends id before after) : after.network.2 = before.network.2 := by
  -- Either nothing was sent, or one packet, and a send accepts nobody.
  rcases sent with rfl | ⟨packet, rfl⟩
  · rfl
  · rw [sockets]
    exact Tcp.count_send network id packet before

/-- Handling an event accepts nobody. -/
theorem count_handle (event : Event) (state : State (Tcp (ν × Nat)) σ ξ φ) :
    (server.handle event state).transport.network.2 = state.transport.network.2 := by
  -- Every way to handle an event sends at most one packet and disconnects at most once.
  cases server.handled_handle event state with
  | stays live sent known => exact count_of_sends sockets sent
  | closed live transport sent left gone =>
    rw [left, sockets]
    exact (Tcp.count_disconnect network event.connection transport).trans
      (count_of_sends sockets sent)
  | parted ended still gone => rw [still]

/-- Sending on a connection disturbs no concord. -/
theorem concord_of_sends {id : ConnectionId} {before after : Tcp (ν × Nat)}
    (sent : server.Sends id before after) {known : ConnectionId → Bool} {given : Nat}
    {handed : List Event} (concord : Tcp.Concord known none given handed before) :
    Tcp.Concord known none given handed after ∧ after.connections = before.connections := by
  -- A send changes neither the table nor the queue.
  rcases sent with rfl | ⟨packet, rfl⟩
  · exact ⟨concord, rfl⟩
  · rw [sockets]
    exact ⟨(Tcp.Concord.upkeep network.counted known).send concord id packet,
      (Tcp.send_keeps network.counted id packet before).2⟩

/-- Handling an event that was taken off the queue restores the concord, and a packet only comes on
a connection that the server knows. -/
theorem concord_handle {event : Event} (state : State (Tcp (ν × Nat)) σ ξ φ)
    {last : Tcp (ν × Nat)} {given : Nat} {handed : List Event}
    (concord : Tcp.Concord state.connections.contains none given handed last)
    (taken : last.nextEvent network.counted = (some event, state.transport)) :
    (∀ id packet, event = .received id packet → state.connections.contains id = true) ∧
      Tcp.Concord (server.handle event state).connections.contains none given (handed ++ [event])
        (server.handle event state).transport := by
  obtain ⟨new, entered, reached⟩ := concord.next taken
  have handled := server.handled_handle event state
  -- Handling an event changes what is known of its own connection and of no other.
  have knows {flag : Bool}
      (own : (server.handle event state).connections.contains event.connection = flag) :
      (server.handle event state).connections.contains =
        Function.update state.connections.contains event.connection flag := by
    rw [Function.eq_update_iff]
    refine ⟨own, fun id differs => ?_⟩
    rw [Connections.contains, get?_handle_of_ne server state (Ne.symm differs),
      Connections.contains]
  constructor
  · -- Of a connection it does not know, the server hears the greeting first.
    rintro id packet rfl
    by_contra unknown
    have absent : state.connections.contains id = false := by simpa using unknown
    cases new.mp absent
  · generalize server.handle event state = after at handled knows ⊢
    -- Each of the three ways changes the concord in its own manner.
    cases handled with
    | stays live sent known =>
      obtain ⟨kept, _⟩ := concord_of_sends sockets sent reached
      rw [live] at kept
      rwa [knows known]
    | closed live transport sent left gone =>
      obtain ⟨kept, entries⟩ := concord_of_sends sockets sent reached
      have present : transport.connections.contains event.connection = true := by
        rw [entries]
        exact entered live
      have closed := kept.disconnect network.counted present
      -- The closing overrules that the caller went on with the connection before it.
      rw [Function.update_idem] at closed
      rwa [knows (gone new.mpr), left, sockets]
    | parted ended still gone =>
      rw [ended] at reached
      rwa [knows gone, still]

/-- The server and its transport agree, and no more numbers were given out than peers accepted. -/
def State.Agrees (state : State (Tcp (ν × Nat)) σ ξ φ) : Prop :=
  ∃ given handed, given ≤ state.transport.network.2 ∧
    Tcp.Concord state.connections.contains none given handed state.transport

/-- A step keeps the agreement, as long as not too many are accepted, and takes up a packet only of
a connection that the server knows. -/
theorem agrees_step (state : State (Tcp (ν × Nat)) σ ξ φ) :
    state.transport.network.2 ≤ (server.step state).2.transport.network.2 ∧
      ((server.step state).2.transport.network.2 < 2 ^ 64 → state.Agrees →
        (server.step state).2.Agrees ∧
          ∀ id packet, (server.transport.poll server.pollInterval state.transport).1 =
              .ok (some (.received id packet)) →
            state.connections.contains id = true) := by
  obtain ⟨last, reached, ended⟩ :=
    (Tcp.Concord.upkeep network.counted state.connections.contains).ended_poll server.pollInterval
      state.transport
  have polled : server.transport.poll server.pollInterval state.transport =
      Tcp.poll network.counted server.pollInterval state.transport := by rw [sockets]; rfl
  simp only [step, polled]
  generalize Tcp.poll network.counted server.pollInterval state.transport = result at ended
  obtain ⟨outcome, transport⟩ := result
  -- Up to the last state of the poll nothing was handed out, and the server knew the same.
  have kept (few : last.network.2 < 2 ^ 64) (agrees : state.Agrees) :
      ∃ given handed, given ≤ last.network.2 ∧
        Tcp.Concord state.connections.contains none given handed last := by
    obtain ⟨given, handed, within, concord⟩ := agrees
    obtain ⟨later, most, concord⟩ := reached.kept few within concord
    exact ⟨later, _, most, concord⟩
  cases ended with
  -- With no event handed out, the concord of the poll's last state is the claim.
  | idle => exact ⟨reached.counted, fun few agrees => ⟨kept few agrees, by simp⟩⟩
  | failed error => exact ⟨reached.counted, fun few agrees => ⟨kept few agrees, by simp⟩⟩
  | @event event transport taken =>
    -- The first event is taken off the queue and handled, and neither accepts anyone.
    have count : transport.network.2 = last.network.2 := by
      have still := Tcp.count_nextEvent network last
      rwa [taken] at still
    have same : (server.handle event { state with transport }).transport.network.2 =
        last.network.2 := (count_handle sockets event _).trans count
    refine ⟨by rw [same]; exact reached.counted, fun few agrees => ?_⟩
    obtain ⟨given, handed, within, concord⟩ := kept (same ▸ few) agrees
    obtain ⟨known, concord⟩ := concord_handle sockets { state with transport } concord taken
    refine ⟨⟨given, _, by rw [same]; exact within, concord⟩, fun id packet came => ?_⟩
    exact known id packet (by simpa using came)

/-- As long as not too many are accepted, a run of steps keeps the agreement, and takes up packets
only of connections that the server knows. -/
theorem agrees_stepping {state : State (Tcp (ν × Nat)) σ ξ φ} (start : state.Agrees) (count : Nat)
    (few : (server.stepping count state).transport.network.2 < 2 ^ 64) :
    (server.stepping count state).Agrees ∧
      ∀ earlier < count, ∀ id packet,
        (server.transport.poll server.pollInterval (server.stepping earlier state).transport).1 =
            .ok (some (.received id packet)) →
          (server.stepping earlier state).connections.contains id = true := by
  -- The induction is on the steps made. No step lowers the count, so it was small all along.
  induction count with
  | zero => exact ⟨start, fun _ less => absurd less (Nat.not_lt_zero _)⟩
  | succ count ih =>
    obtain ⟨counted, kept⟩ := agrees_step sockets (server.stepping count state)
    rw [stepping_succ] at few ⊢
    obtain ⟨agrees, known⟩ := ih (Nat.lt_of_le_of_lt counted few)
    obtain ⟨later, last⟩ := kept few agrees
    refine ⟨later, fun earlier less => ?_⟩
    rcases Nat.lt_succ_iff_lt_or_eq.mp less with before | rfl
    · exact known earlier before
    · exact last

end Running

/-- How many peers are accepted in so many steps, those included that there is no room for. -/
def accepted {ν : Type} (network : Network ν) (server : Dispatcher (Tcp ν) σ ξ φ) (count : Nat)
    (state : State (Tcp ν) σ ξ φ) : Nat :=
  ((server.atop (Tcp.transport network.counted)).stepping count
    (state.seen (Tcp.beside · 0))).transport.network.2

/-- Whatever the machine and its peers do, a server knows exactly the connections it was told of
that are in the table of its transport or are still to be reported for their silence.

So with an empty queue it knows those in the table, and no packet it takes up is of another one. A
number takes 64 bits, so they last for as many peers. -/
theorem connections_agree {ν : Type} {network : Network ν} {server : Dispatcher (Tcp ν) σ ξ φ}
    (sockets : server.transport = Tcp.transport network) (count : Nat) (machine : ν)
    (maxClients : UInt64) (idleTimeout : Duration) (patient : 0 < idleTimeout.nanoseconds)
    (patience : Nat) (crypto : σ) (invoker : Invoker.State ξ φ) (log : List Notice)
    (few : accepted network server count
      { transport := { network := machine, maxClients, idleTimeout, patience }, crypto, invoker,
        log } < 2 ^ 64) :
    let start : State (Tcp ν) σ ξ φ :=
      { transport := { network := machine, maxClients, idleTimeout, patience }, crypto, invoker,
        log }
    let final := server.stepping count start
    (∀ id, final.connections.contains id = true ↔ .connected id ∉ final.transport.events ∧
        (final.transport.connections.contains id = true ∨
          .timedOut id ∈ final.transport.events)) ∧
      (final.transport.events = [] → ∀ id,
        final.connections.contains id = final.transport.connections.contains id) ∧
      ∀ earlier < count, ∀ id packet,
        (server.transport.poll server.pollInterval (server.stepping earlier start).transport).1 =
            .ok (some (.received id packet)) →
          (server.stepping earlier start).connections.contains id = true := by
  intro start final
  have shows : (Tcp.transport network.counted).Shows server.transport Tcp.bare := by
    rw [sockets]
    exact Tcp.counted_shows network
  -- The run is seen beside a count, which changes nothing in it.
  have seen (steps : Nat) : server.stepping steps start =
      ((server.atop (Tcp.transport network.counted)).stepping steps
        (start.seen (Tcp.beside · 0))).seen Tcp.bare :=
    seen_stepping shows steps (start.seen (Tcp.beside · 0))
  -- At first nobody is connected, and nothing is queued.
  have fresh : (start.seen (Tcp.beside · 0)).Agrees :=
    ⟨0, [], Nat.le_refl 0, Tcp.ledger_start (machine, 0) maxClients idleTimeout patience,
      fun id => .absent, patient⟩
  have counting : (server.atop (Tcp.transport network.counted)).transport =
      Tcp.transport network.counted := rfl
  obtain ⟨⟨given, handed, within, concord⟩, known⟩ := agrees_stepping counting fresh count few
  have agreed (id : ConnectionId) : final.connections.contains id = true ↔
      .connected id ∉ final.transport.events ∧
        (final.transport.connections.contains id = true ∨
          .timedOut id ∈ final.transport.events) := by
    rw [show final = _ from seen count]
    exact concord.agreed id
  refine ⟨agreed, fun empty id => ?_, fun earlier less id packet came => ?_⟩
  · rw [Bool.eq_iff_iff, agreed id, empty]
    simp
  · rw [seen] at came ⊢
    refine known earlier less id packet ?_
    have polled := shows.poll server.pollInterval
      ((server.atop (Tcp.transport network.counted)).stepping earlier
        (start.seen (Tcp.beside · 0))).transport
    exact (congrArg Prod.fst polled).symm.trans came

/-- One client breaks the protocol and two are silent. One of these has just been dropped, and the
server is still to be told so. -/
theorem connections_agree_of_silence :
    let peer : SocketAddress := { ip := .v4 ⟨127, 0, 0, 1⟩, port := 40000 }
    let wire : Wire := {
      streams := [{ client := peer, toServer := [1, 0, 0, 0, 7] }, { client := peer },
        { client := peer }]
      backlog := [0, 1, 2] }
    let server : Dispatcher (Tcp Wire) Entropy (Rehearsal Unit) Unit := {
      transport := Tcp.transport Wire.network
      crypto := .standard
      invoker := .idle
      keys := default
      table := ⟨[]⟩
      pollInterval := ⟨2000000000⟩ }
    let start : State (Tcp Wire) Entropy (Rehearsal Unit) Unit := {
      transport := {
        network := wire, maxClients := 4, idleTimeout := ⟨1000000000⟩, patience := 3 }
      crypto := default
      invoker := ⟨.start (), ()⟩ }
    accepted Wire.network server 5 start < 2 ^ 64 ∧
      (server.transport.poll server.pollInterval (server.stepping 3 start).transport).1 =
        .ok (some (.received ⟨1⟩ [7])) ∧
      (server.stepping 3 start).connections.contains ⟨1⟩ = true ∧
      (server.stepping 5 start).transport.events = [.timedOut ⟨3⟩] ∧
      (server.stepping 5 start).connections.contains ⟨3⟩ = true := by
  intro peer wire server start
  have sockets : server.transport = Tcp.transport Wire.network := rfl
  have few : accepted Wire.network server 5 start < 2 ^ 64 := by decide +kernel
  have came : (server.transport.poll server.pollInterval (server.stepping 3 start).transport).1 =
      .ok (some (.received ⟨1⟩ [7])) := by decide +kernel
  have queued : (server.stepping 5 start).transport.events = [.timedOut ⟨3⟩] := by decide +kernel
  obtain ⟨agreed, _, known⟩ := connections_agree sockets 5 wire 4 ⟨1000000000⟩ (by decide)
    3 default ⟨.start (), ()⟩ [] few
  refine ⟨few, came, known 3 (by decide) ⟨1⟩ [7] came, queued, (agreed ⟨3⟩).mpr ?_⟩
  rw [queued]
  simp

end Dispatcher

end CallGate
