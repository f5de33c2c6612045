import CallGate.Proofs.Dispatcher.Output

/-! The life of a connection: it is greeted, holds one session, and is forgotten for good. -/

namespace CallGate

namespace Dispatcher

variable {τ σ ξ φ : Type}

/-- A packet is a key exchange of this version, and a session is derived from the key in it. -/
structure Exchange (server : Dispatcher τ σ ξ φ) (packet : Bytes) (crypto : σ)
    (session : Session) : Prop where
  length : packet.length = 40
  opening : packet.take 4 = [0, 0, 0, 0]
  version : (packet.drop 4).take 4 = [1, 0, 0, 0]
  derived : ∃ peer : PublicKey, packet.drop 8 = peer.bytes.toList ∧
    let (shared, agreed) := server.crypto.agree server.keys.secretKey peer crypto
    session.key.bytes = (server.crypto.digest (shared.toList ++
      server.keys.publicKey.bytes.toList ++ peer.bytes.toList) agreed).1

/-- Completing a handshake derives the session from the packet that the message was read from. -/
theorem exchange_of_complete {server : Dispatcher τ σ ξ φ} {packet : Bytes}
    {message : KeyExchange} {session : Session} {crypto next : σ}
    (decoded : KeyExchange.decode packet = .ok message)
    (version : message.version = protocolVersion)
    (completed : Handshake.complete server.crypto server.keys message crypto =
      (.ok session, next)) : server.Exchange packet crypto session := by
  -- The packet is the message written out, so its fields can be read off it.
  obtain ⟨length, opening, second, last⟩ :=
    KeyExchange.eq_encode_iff.mp (KeyExchange.eq_encode_of_decode decoded)
  have one : Bytes.ofUInt32 protocolVersion = [1, 0, 0, 0] := by decide
  refine ⟨length, opening, by rw [second, version, one], message.publicKey, last, ?_⟩
  -- The version is right, so nothing is left to the handshake but to agree and to digest.
  simp only [Handshake.complete, Handshake.checkVersion, version, if_true, Handshake.sessionKey,
    Prod.mk.injEq, Except.ok.injEq] at completed
  rw [← completed.1]

/-- What an event makes of where a connection stands. -/
inductive Shift (server : Dispatcher τ σ ξ φ) (id : ConnectionId) (moment : Moment τ σ ξ φ) : Prop
  | kept (same : (server.after moment).connections.get? id = moment.state.connections.get? id)
  | greeted (came : moment.event = .connected id)
    (waiting : (server.after moment).connections.get? id = some .awaiting)
  | established (packet : Bytes) (session : Session) (came : moment.event = .received id packet)
    (waiting : moment.state.connections.get? id = some .awaiting)
    (exchange : server.Exchange packet moment.state.crypto session)
    (known : (server.after moment).connections.get? id = some (.established session))
  | ended (gone : (server.after moment).connections.get? id = none)

/-- Every event makes one of these of where a connection stands. -/
theorem shift_after (server : Dispatcher τ σ ξ φ) (id : ConnectionId)
    (moment : Moment τ σ ξ φ) : server.Shift id moment := by
  obtain ⟨event, state⟩ := moment
  -- The cases are whether the event is on the connection and, if so, which it is.
  by_cases own : event.connection = id
  · subst own
    -- Greetings and packets may go either way, and whoever leaves is forgotten.
    cases event with
    | connected id =>
      cases sent : server.transport.send id (Handshake.hello server.keys).encode
          state.transport with
      | mk outcome transport =>
        cases outcome with
        | error cause =>
          -- A client that could not be greeted gets no entry.
          refine .kept ?_
          simp [after, handle, welcome, sent, State.note]
        | ok _ =>
          refine .greeted rfl ?_
          simp [after, handle, welcome, sent, State.note, Connections.get?_insert,
            Event.connection]
    | received id packet =>
      have reception := server.receive_reception id packet state
      cases received : server.receive id packet state with
      | mk outcome next =>
        rw [received] at reception
        cases outcome with
        | error cause => exact .ended (get?_handle_of_refused (by rw [received]))
        | ok _ =>
          -- A packet that is taken up establishes a session, or is served within one.
          have taken : server.after ⟨.received id packet, state⟩ = next := handle_of_taken received
          cases reception with
          | established message session crypto waiting decoded version completed =>
            refine .established packet session rfl waiting
              (exchange_of_complete decoded version completed) ?_
            rw [taken]
            show (state.connections.insert id _).get? id = _
            rw [Connections.get?_insert, if_pos rfl]
          | served => exact .kept (by rw [taken])
    | disconnected id => exact .ended (get?_forget state id _)
    | timedOut id => exact .ended (get?_forget state id _)
  · exact .kept (get?_handle_of_ne server state own)

/-- Where a connection stands when each event of a run is taken up, and at the end of the run. -/
def phases (id : ConnectionId) (moments : List (Moment τ σ ξ φ)) (final : State τ σ ξ φ) :
    List (Option Phase) :=
  moments.map (fun moment => moment.state.connections.get? id) ++ [final.connections.get? id]

/-- How a connection goes on from where it stands, as long as it is not greeted. -/
inductive Wanes : Option Phase → List (Option Phase) → Prop
  | last (phase : Option Phase) : Wanes phase [phase]
  | stay {phase : Option Phase} {course : List (Option Phase)} (rest : Wanes phase course) :
    Wanes phase (phase :: course)
  | establish {session : Session} {course : List (Option Phase)}
    (rest : Wanes (some (.established session)) course) :
    Wanes (some .awaiting) (some .awaiting :: course)
  | leave {phase : Option Phase} {course : List (Option Phase)} (rest : Wanes none course) :
    Wanes phase (phase :: course)

/-- A connection that is not greeted waits for a while, holds one session for a while, and is
unknown from then on. -/
theorem Wanes.stages {phase : Option Phase} {course : List (Option Phase)}
    (wanes : Wanes phase course) :
    ∃ waiting holding gone session,
      course = List.replicate waiting (some .awaiting) ++
        List.replicate holding (some (.established session)) ++ List.replicate gone none ∧
      (phase = some .awaiting ∨ waiting = 0) ∧
      (∀ held, phase = some (.established held) → session = held) ∧
      (phase = none → holding = 0) := by
  -- The induction follows the ways to wane, and each makes one of the three stretches longer.
  induction wanes with
  | last phase =>
    -- The one stage that there is decides which of the three stretches is not empty.
    match phase with
    | none => exact ⟨0, 0, 1, default, by simp⟩
    | some .awaiting => exact ⟨1, 0, 0, default, by simp⟩
    | some (.established session) => exact ⟨0, 1, 0, session, by simp⟩
  | @stay phase course rest ih =>
    obtain ⟨waiting, holding, gone, session, rfl, before, same, past⟩ := ih
    -- The stretch in which the connection stands becomes longer by one.
    match phase with
    | none =>
      obtain rfl : waiting = 0 := by simpa using before
      obtain rfl : holding = 0 := past rfl
      exact ⟨0, 0, gone + 1, session, by simp [List.replicate_succ]⟩
    | some .awaiting =>
      exact ⟨waiting + 1, holding, gone, session, by simp [List.replicate_succ]⟩
    | some (.established held) =>
      obtain rfl : waiting = 0 := by simpa using before
      obtain rfl : session = held := same held rfl
      exact ⟨0, holding + 1, gone, session, by simp [List.replicate_succ]⟩
  | @establish session course rest ih =>
    obtain ⟨waiting, holding, gone, held, rfl, before, same, _⟩ := ih
    obtain rfl : waiting = 0 := by simpa using before
    obtain rfl : held = session := same session rfl
    -- The connection was waiting for one moment more, and the session is held from then on.
    exact ⟨1, holding, gone, held, by simp⟩
  | @leave phase course rest ih =>
    obtain ⟨waiting, holding, gone, session, rfl, before, _, past⟩ := ih
    obtain rfl : waiting = 0 := by simpa using before
    -- What comes after the end is the last stretch, and the moment before belongs to the other two.
    obtain rfl : holding = 0 := past rfl
    match phase with
    | none => exact ⟨0, 0, gone + 1, session, by simp [List.replicate_succ]⟩
    | some .awaiting => exact ⟨1, 0, gone, session, by simp⟩
    | some (.established held) => exact ⟨0, 1, gone, held, by simp⟩

/-- In a run that does not greet a connection, the connection wanes. -/
theorem Run.wanes {server : Dispatcher τ σ ξ φ} {id : ConnectionId} {state final : State τ σ ξ φ}
    {moments : List (Moment τ σ ξ φ)} (run : server.Run state moments final)
    (ungreeted : ∀ moment ∈ moments, moment.event ≠ .connected id) :
    Wanes (state.connections.get? id) (phases id moments final) := by
  -- The induction follows the run, and each event is one of the ways in which the rest goes on.
  induction run with
  | stop state => exact .last _
  | idle rest ih => exact ih ungreeted
  | @event state final moments event rest ih =>
    -- The rest of the run greets no one either, and the phases are one longer than those of it.
    have later := ih fun moment member => ungreeted moment (List.mem_cons_of_mem _ member)
    have now := ungreeted _ (List.mem_cons_self ..)
    show Wanes (state.connections.get? id) (state.connections.get? id :: phases id moments final)
    cases server.shift_after id ⟨event, server.polled state⟩ with
    | kept same =>
      rw [same] at later
      exact .stay later
    | greeted came => exact absurd came now
    | established packet session came waiting exchange known =>
      rw [known] at later
      have waiting : state.connections.get? id = some .awaiting := waiting
      rw [waiting]
      exact .establish later
    | ended gone =>
      rw [gone] at later
      exact .leave later

/-- A connection that is not known, and is not greeted, is never known. -/
theorem Run.phases_of_unknown {server : Dispatcher τ σ ξ φ} {id : ConnectionId}
    {state final : State τ σ ξ φ} {moments : List (Moment τ σ ξ φ)}
    (run : server.Run state moments final) (unknown : state.connections.get? id = none)
    (ungreeted : ∀ moment ∈ moments, moment.event ≠ .connected id) :
    ∃ count, phases id moments final = List.replicate count none := by
  -- A connection that wanes from nothing has nothing to wait for and nothing to hold.
  obtain ⟨waiting, holding, gone, session, course, before, _, past⟩ := (run.wanes ungreeted).stages
  obtain rfl : waiting = 0 := by simpa [unknown] using before
  obtain rfl : holding = 0 := past unknown
  exact ⟨gone, by simpa using course⟩

/-- The event is the last of a connection: its peer is gone, it could not be greeted, or its
packet is refused. -/
inductive Ends (server : Dispatcher τ σ ξ φ) (id : ConnectionId) : Moment τ σ ξ φ → Prop
  | disconnected (state : State τ σ ξ φ) : Ends server id ⟨.disconnected id, state⟩
  | timedOut (state : State τ σ ξ φ) : Ends server id ⟨.timedOut id, state⟩
  | turnedAway (state : State τ σ ξ φ) (cause : TransportError)
    (unsent : (server.transport.send id (Handshake.hello server.keys).encode state.transport).1 =
      .error cause) : Ends server id ⟨.connected id, state⟩
  | refused (packet : Bytes) (state : State τ σ ξ φ) (cause : RequestError)
    (refusal : (server.receive id packet state).1 = .error cause) :
    Ends server id ⟨.received id packet, state⟩

/-- The whole life of a connection in a run. -/
structure LifeCycle (server : Dispatcher τ σ ξ φ) (moments : List (Moment τ σ ξ φ))
    (final : State τ σ ξ φ) (id : ConnectionId) : Prop where
  /-- It is unknown, waits for its client's key, holds one session, and is unknown for good. -/
  stages : ∃ before waiting holding gone session, phases id moments final =
    List.replicate before none ++ List.replicate waiting (some .awaiting) ++
      List.replicate holding (some (.established session)) ++ List.replicate gone none
  /-- A session comes from nothing but a key exchange on a connection that waits for one. -/
  established {before later : List (Moment τ σ ξ φ)} {moment : Moment τ σ ξ φ} {session : Session}
    (cut : moments = before ++ moment :: later)
    (without : moment.state.hasSession id = false)
    (known : (server.after moment).connections.get? id = some (.established session)) :
    ∃ packet, moment.event = .received id packet ∧
      moment.state.connections.get? id = some .awaiting ∧
      server.Exchange packet moment.state.crypto session
  /-- Whatever opens like a key exchange ends a connection that holds a session. -/
  repeated {before later : List (Moment τ σ ξ φ)} {state : State τ σ ξ φ} {packet : Bytes}
    (cut : moments = before ++ ⟨.received id packet, state⟩ :: later)
    (holding : state.hasSession id = true) (opening : packet.take 4 = [0, 0, 0, 0]) :
    server.Ends id ⟨.received id packet, state⟩
  /-- After the event that ends it, there is never a session again. -/
  ended {before later : List (Moment τ σ ξ φ)} {moment : Moment τ σ ξ φ}
    (cut : moments = before ++ moment :: later) (ends : server.Ends id moment) :
    (server.after moment).hasSession id = false ∧
      (∀ next ∈ later, next.state.hasSession id = false) ∧ final.hasSession id = false

/-- The event that ends a connection of an orderly run leaves it without an entry. -/
theorem get?_after_of_ends {server : Dispatcher τ σ ξ φ} {id : ConnectionId}
    {state final : State τ σ ξ φ} {moments before later : List (Moment τ σ ξ φ)}
    {moment : Moment τ σ ξ φ} (run : server.Run state moments final)
    (start : state.connections.get? id = none) (orderly : Orderly (moments.map Moment.event))
    (cut : moments = before ++ moment :: later) (ends : server.Ends id moment) :
    (server.after moment).connections.get? id = none := by
  -- Each of the four ways to end takes the entry away, or finds none.
  cases ends with
  | disconnected state => exact get?_forget state id _
  | timedOut state => exact get?_forget state id _
  | refused packet state cause refusal => exact get?_handle_of_refused refusal
  | turnedAway state cause unsent =>
    -- Before its greeting, nothing had happened on the connection, so it had no entry either.
    have apart := apart_of_orderly orderly cut
    exact get?_handle_of_turnedAway server unsent (unknown_of_unheard (run.split cut).1 start apart)

/-- In an orderly run, nothing that happens on a connection is followed by its greeting. -/
theorem ungreeted_of_orderly {id : ConnectionId} {moments before later : List (Moment τ σ ξ φ)}
    {moment : Moment τ σ ξ φ} (orderly : Orderly (moments.map Moment.event))
    (cut : moments = before ++ moment :: later) (own : moment.event.connection = id) :
    ∀ next ∈ later, next.event ≠ .connected id := by
  -- A greeting behind anything on its connection is what orderly runs do not have.
  subst own
  exact (orderly_cut (cut ▸ orderly)).2

/-- Cutting a run cuts the course of a connection. -/
theorem phases_append (id : ConnectionId) (before later : List (Moment τ σ ξ φ))
    (moment : Moment τ σ ξ φ) (final : State τ σ ξ φ) :
    phases id (before ++ moment :: later) final =
      phases id before moment.state ++ phases id later final := by
  simp [phases]

/-- The stages of a connection of an orderly run come in their order, each of them once. -/
theorem stages_of_orderly {server : Dispatcher τ σ ξ φ} {id : ConnectionId}
    {state final : State τ σ ξ φ} {moments : List (Moment τ σ ξ φ)}
    (run : server.Run state moments final) (start : state.connections.get? id = none)
    (orderly : Orderly (moments.map Moment.event)) :
    ∃ before waiting holding gone session, phases id moments final =
      List.replicate before none ++ List.replicate waiting (some .awaiting) ++
        List.replicate holding (some (.established session)) ++ List.replicate gone none := by
  -- The run is cut at the greeting, if there is one.
  by_cases greeted : ∃ moment ∈ moments, moment.event = .connected id
  · obtain ⟨⟨event, greeting⟩, member, came⟩ := greeted
    simp only at came
    subst came
    obtain ⟨before, later, cut⟩ := List.append_of_mem member
    obtain ⟨earlier, rest⟩ := run.split cut
    -- Nothing happens on the connection before its greeting, so it is unknown until then.
    have apart := apart_of_orderly orderly cut
    obtain ⟨count, unknown⟩ := earlier.phases_of_unknown start fun moment member came =>
      apart moment member (by rw [came]; rfl)
    -- From the greeting on, the connection wanes.
    have ungreeted : ∀ next ∈ later, next.event ≠ .connected id :=
      ungreeted_of_orderly orderly cut rfl
    obtain ⟨waiting, holding, gone, session, course, _⟩ := (rest.wanes ungreeted).stages
    refine ⟨count, waiting, holding, gone, session, ?_⟩
    rw [cut, phases_append, unknown, course]
    simp only [List.append_assoc]
  · -- Without a greeting there is nothing but the first stage.
    obtain ⟨count, unknown⟩ := run.phases_of_unknown start fun moment member came =>
      greeted ⟨moment, member, came⟩
    exact ⟨count, 0, 0, 0, default, by simpa using unknown⟩

/-- A connection that is unknown all along never has a session. -/
theorem hasSession_of_phases {id : ConnectionId} {moments : List (Moment τ σ ξ φ)}
    {final : State τ σ ξ φ} {count : Nat}
    (unknown : phases id moments final = List.replicate count none) :
    (∀ moment ∈ moments, moment.state.hasSession id = false) ∧ final.hasSession id = false := by
  -- The course has no other phase than that of an unknown connection.
  have all : ∀ phase ∈ phases id moments final, phase = none := by
    rw [unknown]
    exact fun phase member => List.eq_of_mem_replicate member
  constructor
  · intro moment member
    have none : moment.state.connections.get? id = none :=
      all _ (List.mem_append_left _ (List.mem_map_of_mem member))
    simp [State.hasSession, none]
  · have none : final.connections.get? id = none :=
      all _ (List.mem_append_right _ (List.mem_singleton_self _))
    simp [State.hasSession, none]

/-- In an orderly run from a fresh start, every connection goes through its stages once, its
session is the one that its key exchange derives, and no session outlives its connection. -/
theorem lifeCycle_of_orderly (server : Dispatcher τ σ ξ φ) (budget : Nat) (start : State τ σ ξ φ)
    (fresh : start.connections = .empty)
    (orderly : Orderly ((server.history budget start).map Moment.event)) (id : ConnectionId) :
    server.LifeCycle (server.history budget start) (server.steps budget start).2 id := by
  -- Each part is about one event of the run, where the run is cut in two.
  have run := server.run_steps budget start
  generalize server.history budget start = moments at run orderly
  generalize (server.steps budget start).2 = final at run
  have unknown : start.connections.get? id = none := by rw [fresh, Connections.get?_empty]
  exact {
    stages := stages_of_orderly run unknown orderly
    established := by
      intro before later moment session _ without known
      -- Of all that an event can come to, only a key exchange ends in a session not held before.
      cases server.shift_after id moment with
      | kept same =>
        have held := State.hasSession_eq_true_iff.mpr ⟨session, same.symm.trans known⟩
        rw [without] at held
        cases held
      | greeted came waiting => simp [waiting] at known
      | established packet other came waiting exchange entered =>
        rw [entered, Option.some.injEq, Phase.established.injEq] at known
        subst known
        exact ⟨packet, came, waiting, exchange⟩
      | ended gone => simp [gone] at known
    repeated := by
      intro before later state packet _ holding opening
      obtain ⟨session, known⟩ := State.hasSession_eq_true_iff.mp holding
      -- The packet is taken for a key exchange by its first bytes, before the rest is looked at.
      have zero : PacketKind.keyExchange.toBytes = [0, 0, 0, 0] := by decide
      have peeked : PacketKind.peek packet = .ok .keyExchange :=
        PacketKind.peek_eq_ok_iff.mpr (opening.trans zero.symm)
      refine .refused packet state .repeatedHandshake ?_
      simp [receive, peeked, establish, known]
    ended := by
      intro before later moment cut ends
      have gone := get?_after_of_ends run unknown orderly cut ends
      have own : moment.event.connection = id := by cases ends <;> rfl
      -- The connection has no entry, and in an orderly run it is not greeted again.
      obtain ⟨count, nothing⟩ :=
        (run.split cut).2.phases_of_unknown gone (ungreeted_of_orderly orderly cut own)
      exact ⟨by simp [State.hasSession, gone], hasSession_of_phases nothing⟩ }

/-- A client that shakes hands and hangs up goes through all of its stages. -/
theorem lifeCycle_of_handshake :
    let server := onLoopback .standard .idle ⟨.replicate 32 1⟩ ⟨[]⟩ ⟨0⟩
    let hello := (Handshake.hello (.ofSecret .standard ⟨.replicate 32 2⟩)).encode
    let start : State Loopback Entropy (Rehearsal Unit) Unit := {
      transport := ((Loopback.connect {} ⟨1⟩).deliver ⟨1⟩ hello).queue (.disconnected ⟨1⟩)
      crypto := default
      invoker := ⟨.start (), ()⟩ }
    (server.history 4 start).map Moment.event =
        [.connected ⟨1⟩, .received ⟨1⟩ hello, .disconnected ⟨1⟩] ∧
      server.LifeCycle (server.history 4 start) (server.steps 4 start).2 ⟨1⟩ := by
  -- The events of the run are computed, and no greeting among them comes late.
  intro server hello start
  have events : (server.history 4 start).map Moment.event =
      [.connected ⟨1⟩, .received ⟨1⟩ hello, .disconnected ⟨1⟩] := by rfl
  exact ⟨events, lifeCycle_of_orderly server 4 start rfl (by rw [events]; decide) ⟨1⟩⟩

end Dispatcher

end CallGate
