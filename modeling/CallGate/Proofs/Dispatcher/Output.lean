import CallGate.Proofs.Dispatcher.History
import CallGate.Proofs.Dispatcher.Reception
import CallGate.Proofs.Transport.Frame
import Mathlib.Data.List.Forall2

/-! What the server sends and closes, and when: a connection that is refused hears nothing more. -/

namespace CallGate

/-- What a transport is asked to do. -/
inductive Call where
  /-- A packet was handed over for sending, and taken or not. -/
  | sent (connection : ConnectionId) (packet : Bytes) (taken : Bool)
  | closed (connection : ConnectionId)
  deriving DecidableEq, Repr

/-- The same transport, with every sending and closing noted next to its own state. -/
def Transport.recorded {τ : Type} (transport : Transport τ) : Transport (τ × List Call) where
  poll wait state :=
    let (outcome, inner) := transport.poll wait state.1
    (outcome, inner, state.2)
  send id packet state :=
    let (outcome, inner) := transport.send id packet state.1
    (outcome, inner, state.2 ++ [.sent id packet outcome.isOk])
  disconnect id state := (transport.disconnect id state.1, state.2 ++ [.closed id])

namespace Call

/-- The connection the call is about. -/
def connection : Call → ConnectionId
  | sent connection _ _ => connection
  | closed connection => connection

/-- The call hands over a packet for a connection. -/
def Sends (id : ConnectionId) (call : Call) : Prop := ∃ packet taken, call = .sent id packet taken

/-- The packet that the call gets through to a connection. -/
def through? (id : ConnectionId) : Call → Option Bytes
  | .sent connection packet true => if connection = id then some packet else none
  | _ => none

/-- The packets that calls get through to a connection, first to last. -/
def delivered (id : ConnectionId) (calls : List Call) : List Bytes := calls.filterMap (through? id)

/-- What gets through in two lots of calls is what gets through in the one and in the other. -/
@[simp] theorem delivered_append (id : ConnectionId) (first last : List Call) :
    delivered id (first ++ last) = delivered id first ++ delivered id last :=
  List.filterMap_append

/-- Where nothing is handed over, nothing gets through. -/
theorem delivered_of_silent {id : ConnectionId} {calls : List Call}
    (silent : ∀ call ∈ calls, ¬ call.Sends id) : delivered id calls = [] := by
  rw [delivered, List.filterMap_eq_nil_iff]
  -- A call gets something through only if it sends to this very connection, and none does.
  intro call member
  cases call with
  | closed connection => rfl
  | sent connection packet taken =>
    cases taken with
    | false => rfl
    | true =>
      by_cases same : connection = id
      · exact absurd ⟨packet, true, by rw [same]⟩ (silent _ member)
      · simp [through?, same]

end Call

/-- Every connection is reported at most once, and before anything else that happens on it. -/
def Orderly (events : List Event) : Prop :=
  events.Pairwise fun earlier later => later ≠ .connected earlier.connection

/-- Whether a list of events is orderly can be computed, event by event. -/
instance (events : List Event) : Decidable (Orderly events) :=
  inferInstanceAs (Decidable (events.Pairwise _))

namespace Dispatcher

variable {τ σ ξ φ : Type}

/-- The same server, with every call of its transport noted. -/
def recordingCalls (server : Dispatcher τ σ ξ φ) : Dispatcher (τ × List Call) σ ξ φ where
  transport := server.transport.recorded
  crypto := server.crypto
  invoker := server.invoker
  keys := server.keys
  table := server.table
  pollInterval := server.pollInterval

/-- What a server starts with, before the first event and the first call. -/
def State.fresh (transport : τ) (crypto : σ) (invoker : Invoker.State ξ φ) (log : List Notice) :
    State (τ × List Call) σ ξ φ where
  transport := (transport, [])
  crypto := crypto
  invoker := invoker
  connections := .empty
  log := log

/-- What was sent and closed so far. -/
def State.calls (state : State (τ × List Call) σ ξ φ) : List Call := state.transport.2

/-- What is sent and closed while an event is handled. -/
def emitted (server : Dispatcher τ σ ξ φ) (moment : Moment (τ × List Call) σ ξ φ) : List Call :=
  (server.recordingCalls.after moment).calls.drop moment.state.calls.length

/-- The calls that handling an event may make. -/
inductive Emits (server : Dispatcher τ σ ξ φ) :
    Moment (τ × List Call) σ ξ φ → List Call → Prop
  | greeted (id : ConnectionId) (state : State (τ × List Call) σ ξ φ)
    (sent : (server.transport.send id (Handshake.hello server.keys).encode state.transport.1).1 =
      .ok ()) :
    Emits server ⟨.connected id, state⟩ [.sent id (Handshake.hello server.keys).encode true]
  | turnedAway (id : ConnectionId) (state : State (τ × List Call) σ ξ φ) (cause : TransportError)
    (unsent : (server.transport.send id (Handshake.hello server.keys).encode state.transport.1).1 =
      .error cause) :
    Emits server ⟨.connected id, state⟩
      [.sent id (Handshake.hello server.keys).encode false, .closed id]
  /-- A session is established in silence. -/
  | established (id : ConnectionId) (packet : Bytes) (state : State (τ × List Call) σ ξ φ)
    (taken : (server.recordingCalls.receive id packet state).1 = .ok ())
    (peeked : PacketKind.peek packet = .ok .keyExchange) :
    Emits server ⟨.received id packet, state⟩ []
  | answered (id : ConnectionId) (packet : Bytes) (state : State (τ × List Call) σ ξ φ)
    (session : Session) (reply : Envelope)
    (taken : (server.recordingCalls.receive id packet state).1 = .ok ())
    (peeked : PacketKind.peek packet = .ok .execute)
    (known : state.connections.get? id = some (.established session))
    (kind : reply.kind = .stateTransfer) :
    Emits server ⟨.received id packet, state⟩ [.sent id reply.encode true]
  | refused (id : ConnectionId) (packet : Bytes) (state : State (τ × List Call) σ ξ φ)
    (cause : RequestError)
    (refusal : (server.recordingCalls.receive id packet state).1 = .error cause) :
    Emits server ⟨.received id packet, state⟩ [.closed id]
  /-- The answer was ready, and the transport did not take it. -/
  | unsent (id : ConnectionId) (packet : Bytes) (state : State (τ × List Call) σ ξ φ)
    (session : Session) (reply : Envelope) (cause : RequestError)
    (refusal : (server.recordingCalls.receive id packet state).1 = .error cause)
    (known : state.connections.get? id = some (.established session))
    (kind : reply.kind = .stateTransfer) :
    Emits server ⟨.received id packet, state⟩ [.sent id reply.encode false, .closed id]
  | left (id : ConnectionId) (event : Event) (state : State (τ × List Call) σ ξ φ)
    (gone : event = .disconnected id ∨ event = .timedOut id) :
    Emits server ⟨event, state⟩ []

/-- Greeting a client either gets through or closes the connection. -/
theorem exists_emits_connected (server : Dispatcher τ σ ξ φ) (id : ConnectionId)
    (state : State (τ × List Call) σ ξ φ) :
    ∃ calls, server.Emits ⟨.connected id, state⟩ calls ∧
      (server.recordingCalls.handle (.connected id) state).calls = state.calls ++ calls := by
  cases sent : server.transport.send id (Handshake.hello server.keys).encode state.transport.1 with
  | mk outcome transport =>
    -- The noted transport does what the plain one does, and notes the call.
    have called : server.recordingCalls.transport.send id (Handshake.hello server.keys).encode
        state.transport = (outcome, transport,
          state.calls ++ [.sent id (Handshake.hello server.keys).encode outcome.isOk]) := by
      simp [recordingCalls, Transport.recorded, sent, State.calls]
    have keys : server.recordingCalls.keys = server.keys := rfl
    cases outcome with
    | ok _ =>
      refine ⟨_, .greeted id state (by rw [sent]), ?_⟩
      simp only [handle, welcome, keys, called]
      rfl
    | error cause =>
      refine ⟨_, .turnedAway id state cause (by rw [sent]), ?_⟩
      simp only [handle, welcome, keys, called]
      -- The connection is closed right behind the greeting that was not taken.
      show state.calls ++ [_] ++ [_] = _
      rw [List.append_assoc]
      rfl

/-- A packet is answered once, taken up in silence, or closes its connection. -/
theorem exists_emits_received (server : Dispatcher τ σ ξ φ) (id : ConnectionId) (packet : Bytes)
    (state : State (τ × List Call) σ ξ φ) :
    ∃ calls, server.Emits ⟨.received id packet, state⟩ calls ∧
      (server.recordingCalls.handle (.received id packet) state).calls = state.calls ++ calls := by
  -- The packet comes to one of seven things, and for each the calls can be read off.
  have reception := server.recordingCalls.receive_reception id packet state
  cases received : server.recordingCalls.receive id packet state with
  | mk outcome next =>
    rw [received] at reception
    -- A refusal that sent nothing only closes the connection.
    have closes (cause : RequestError) (refusal : outcome = .error cause)
        (silent : next.transport = state.transport) :
        ∃ calls, server.Emits ⟨.received id packet, state⟩ calls ∧
          (server.recordingCalls.handle (.received id packet) state).calls =
            state.calls ++ calls := by
      subst refusal
      refine ⟨[.closed id], .refused id packet state cause (by rw [received]), ?_⟩
      rw [handle_of_refused received]
      simp [reject, State.note, State.calls, recordingCalls, Transport.recorded, silent]
    cases reception with
    | refused cause => exact closes cause rfl rfl
    | unauthentic session envelope error => exact closes _ rfl rfl
    | misdirected session text => exact closes _ rfl rfl
    | unsealed session text => exact closes _ rfl rfl
    | established message session crypto waiting decoded =>
      refine ⟨[], .established id packet state (by rw [received]) ?_, ?_⟩
      · rw [KeyExchange.eq_encode_of_decode decoded, KeyExchange.peek_encode]
      · rw [handle_of_taken received]
        rw [List.append_nil]
        rfl
    -- Here the region ran and the answer was handed over in vain.
    | unsent session text opening sealing region answer invoker reply cause transport request
        found ran wrapped sent =>
      refine ⟨[.sent id reply.encode false, .closed id],
        .unsent id packet state session reply _ (by rw [received]) request.known
          (Channel.encrypt_of_wrap wrapped).1, ?_⟩
      rw [handle_of_refused received]
      simp only [recordingCalls, Transport.recorded, Prod.mk.injEq] at sent
      obtain ⟨refusal, rfl⟩ := sent
      simp [reject, State.note, State.calls, recordingCalls, Transport.recorded, refusal,
        Except.isOk, Except.toBool]
    | served session text opening sealing region answer invoker reply transport request found ran
        wrapped sent =>
      obtain ⟨envelope, decoded, kind, _⟩ := request.opened
      refine ⟨[.sent id reply.encode true],
        .answered id packet state session reply (by rw [received]) ?_ request.known
          (Channel.encrypt_of_wrap wrapped).1, ?_⟩
      · rw [(Envelope.eq_encode_of_decode decoded).1, Envelope.peek_encode, kind]
      · rw [handle_of_taken received]
        simp only [recordingCalls, Transport.recorded, Prod.mk.injEq] at sent
        obtain ⟨taken, rfl⟩ := sent
        simp [State.calls, taken, Except.isOk, Except.toBool]

/-- Handling an event makes the calls that it may make, behind those made before. -/
theorem emits_emitted (server : Dispatcher τ σ ξ φ) (moment : Moment (τ × List Call) σ ξ φ) :
    server.Emits moment (server.emitted moment) ∧
      (server.recordingCalls.after moment).calls =
        moment.state.calls ++ server.emitted moment := by
  -- Each kind of event is looked at on its own. Partings make no call at all.
  have made : ∃ calls, server.Emits moment calls ∧
      (server.recordingCalls.after moment).calls = moment.state.calls ++ calls := by
    obtain ⟨event, state⟩ := moment
    cases event with
    | connected id => exact server.exists_emits_connected id state
    | received id packet => exact server.exists_emits_received id packet state
    | disconnected id =>
      refine ⟨[], .left id _ state (.inl rfl), ?_⟩
      by_cases known : state.connections.contains id <;>
        simp [after, handle, State.forget, State.note, State.calls, known]
    | timedOut id =>
      refine ⟨[], .left id _ state (.inr rfl), ?_⟩
      by_cases known : state.connections.contains id <;>
        simp [after, handle, State.forget, State.note, State.calls, known]
  obtain ⟨calls, emits, grown⟩ := made
  -- Calls are only ever added at the end, so what an event made is what stands behind the old
  -- ones.
  have same : server.emitted moment = calls := by rw [emitted, grown, List.drop_left]
  rw [same]
  exact ⟨emits, grown⟩

/-- The event is a request on the connection, and handling it succeeds. -/
def serves (server : Dispatcher τ σ ξ φ) (id : ConnectionId)
    (moment : Moment (τ × List Call) σ ξ φ) : Bool :=
  match moment.event with
  | .received connection packet =>
    connection = id ∧ PacketKind.peek packet = .ok .execute ∧
      (server.recordingCalls.receive connection packet moment.state).1 = .ok ()
  | _ => false

/-- The packet is a greeting: forty bytes, the version and a public key behind the tag. -/
structure IsGreeting (key : PublicKey) (packet : Bytes) : Prop where
  length : packet.length = 40
  opening : packet.take 4 = [0, 0, 0, 0]
  version : (packet.drop 4).take 4 = [1, 0, 0, 0]
  key : packet.drop 8 = key.bytes.toList

/-- What a server greets with is a greeting with its own key. -/
theorem isGreeting_hello (keys : KeyPair) :
    IsGreeting keys.publicKey (Handshake.hello keys).encode := by
  obtain ⟨length, opening, version, key⟩ :=
    KeyExchange.eq_encode_iff.mp (rfl : (Handshake.hello keys).encode = _)
  -- The version that every hello holds is written as a one and three zeros.
  have one : Bytes.ofUInt32 protocolVersion = [1, 0, 0, 0] := by decide
  exact ⟨length, opening, version.trans one, key⟩

/-- The packet has the form of an answer: 180 bytes that open like a state transfer. -/
def IsAnswer (packet : Bytes) : Prop := packet.length = 180 ∧ packet.take 4 = [2, 0, 0, 0]

/-- Whatever is sealed for a state transfer has the form of an answer. -/
theorem isAnswer_encode {reply : Envelope} (kind : reply.kind = .stateTransfer) :
    IsAnswer reply.encode := by
  -- The first bytes of the packet tell its kind.
  have peeked : PacketKind.peek reply.encode = .ok .stateTransfer := by
    rw [Envelope.peek_encode, kind]
  exact ⟨Envelope.length_encode reply, PacketKind.peek_eq_ok_iff.mp peeked⟩

namespace Emits

variable {server : Dispatcher τ σ ξ φ} {moment : Moment (τ × List Call) σ ξ φ} {calls : List Call}
  {id : ConnectionId}

/-- An event makes calls on its own connection only. -/
theorem connection_eq (emits : server.Emits moment calls) {call : Call} (made : call ∈ calls) :
    call.connection = moment.event.connection := by
  -- Greetings, answers and closings are all about the connection of their event.
  cases emits <;> simp only [List.mem_cons, List.not_mem_nil, or_false] at made
  case greeted => rw [made]; rfl
  case turnedAway => rcases made with rfl | rfl <;> rfl
  case answered => rw [made]; rfl
  case refused => rw [made]; rfl
  case unsent => rcases made with rfl | rfl <;> rfl

/-- Every packet handed over is the greeting or has the form of an answer. -/
theorem packet_eq (emits : server.Emits moment calls) {packet : Bytes} {taken : Bool}
    (made : .sent id packet taken ∈ calls) :
    packet = (Handshake.hello server.keys).encode ∨ IsAnswer packet := by
  -- Only two kinds of packets are ever handed over.
  cases emits <;> simp at made
  case greeted => exact .inl made.2.1
  case turnedAway => exact .inl made.2.1
  case answered kind => exact .inr (made.2.1 ▸ isAnswer_encode kind)
  case unsent kind => exact .inr (made.2.1 ▸ isAnswer_encode kind)

/-- Nothing is handed over for a connection without an entry, unless it is being greeted. -/
theorem silent (emits : server.Emits moment calls)
    (unknown : moment.state.connections.get? id = none)
    (ungreeted : moment.event ≠ .connected id) : ∀ call ∈ calls, ¬ call.Sends id := by
  rintro call made ⟨packet, taken, rfl⟩
  -- A call for the connection comes from an event on it.
  have own : id = moment.event.connection := emits.connection_eq made
  cases emits with
  | greeted => exact ungreeted (by rw [own]; rfl)
  | turnedAway => exact ungreeted (by rw [own]; rfl)
  -- An answer takes a session, and the connection has no entry that could hold one.
  | answered other packet state session reply taken peeked known =>
    have same : id = other := own
    rw [same] at unknown
    simp [unknown] at known
  | unsent other packet state session reply cause refusal known =>
    have same : id = other := own
    rw [same] at unknown
    simp [unknown] at known
  | _ => simp at made

/-- A request that is served gets one answer through, and no other event but a greeting gets
anything through. -/
theorem delivered (emits : server.Emits moment calls) (ungreeted : moment.event ≠ .connected id) :
    if server.serves id moment then ∃ reply, Call.delivered id calls = [reply] ∧ IsAnswer reply
    else Call.delivered id calls = [] := by
  -- Serving a request is the one outcome that both counts as served and gets a packet through.
  cases emits with
  | greeted other state sent =>
    have differs : other ≠ id := fun same => ungreeted (by rw [same])
    simp [serves, Call.delivered, Call.through?, differs]
  | turnedAway other state => simp [serves, Call.delivered, Call.through?]
  | established other packet state taken peeked => simp [serves, Call.delivered, peeked]
  | answered other packet state session reply taken peeked known kind =>
    by_cases same : other = id
    · subst same
      simp [serves, Call.delivered, Call.through?, peeked, taken, isAnswer_encode kind]
    · simp [serves, Call.delivered, Call.through?, same]
  | refused other packet state cause refusal =>
    simp [serves, Call.delivered, Call.through?, refusal]
  | unsent other packet state session reply cause refusal =>
    simp [serves, Call.delivered, Call.through?, refusal]
  | left other event state gone =>
    rcases gone with rfl | rfl <;> simp [serves, Call.delivered]

end Emits

/-- The calls of a run are those of its events, one event after the other. -/
theorem calls_of_run {server : Dispatcher τ σ ξ φ} {state final : State (τ × List Call) σ ξ φ}
    {moments : List (Moment (τ × List Call) σ ξ φ)}
    (run : server.recordingCalls.Run state moments final) :
    final.calls = state.calls ++ moments.flatMap server.emitted :=
  run.grows State.calls (fun _ => rfl) fun moment => (server.emits_emitted moment).2

/-- A connection without an entry that is not greeted gets nothing. -/
theorem silent_of_unknown {server : Dispatcher τ σ ξ φ} {id : ConnectionId}
    {state final : State (τ × List Call) σ ξ φ} {moments : List (Moment (τ × List Call) σ ξ φ)}
    (run : server.recordingCalls.Run state moments final)
    (unknown : state.connections.get? id = none)
    (ungreeted : ∀ moment ∈ moments, moment.event ≠ .connected id) :
    ∀ call ∈ moments.flatMap server.emitted, ¬ call.Sends id := by
  -- Having no entry is kept from event to event, and each of them is silent because of it.
  induction run with
  | stop state => simp
  | idle rest ih => exact ih unknown ungreeted
  | event event rest ih =>
    -- The event finds the connection without an entry and leaves it so.
    have first := ungreeted _ (List.mem_cons_self ..)
    intro call made
    rcases List.mem_append.mp (List.flatMap_cons ▸ made) with now | later
    · exact (server.emits_emitted _).1.silent unknown first call now
    · exact ih (get?_handle_of_unknown unknown first)
        (fun moment member => ungreeted moment (List.mem_cons_of_mem _ member)) call later

/-- Each request that is served gets one answer through, and nothing else gets through as long as
the connection is not greeted. -/
theorem answers_of_moments {server : Dispatcher τ σ ξ φ} {id : ConnectionId}
    {moments : List (Moment (τ × List Call) σ ξ φ)}
    (ungreeted : ∀ moment ∈ moments, moment.event ≠ .connected id) :
    List.Forall₂ (fun moment reply => Call.delivered id (server.emitted moment) = [reply] ∧
        IsAnswer reply)
      (moments.filter (server.serves id))
      (Call.delivered id (moments.flatMap server.emitted)) := by
  -- Requests that are served and the answers that get through are matched one by one.
  induction moments with
  | nil => exact .nil
  | cons moment moments ih =>
    have rest := ih fun other member => ungreeted other (List.mem_cons_of_mem _ member)
    have now := (server.emits_emitted moment).1.delivered (ungreeted moment (List.mem_cons_self ..))
    rw [List.flatMap_cons, Call.delivered_append]
    by_cases serving : server.serves id moment
    · rw [if_pos serving] at now
      obtain ⟨reply, through, form⟩ := now
      rw [List.filter_cons_of_pos serving, through]
      exact .cons ⟨through, form⟩ rest
    · rw [if_neg serving] at now
      rw [List.filter_cons_of_neg serving, now]
      exact rest

/-- What was not heard of before its greeting has no entry when it is greeted. -/
theorem unknown_of_unheard {server : Dispatcher τ σ ξ φ} {id : ConnectionId}
    {state final : State τ σ ξ φ} {moments : List (Moment τ σ ξ φ)}
    (run : server.Run state moments final) (unknown : state.connections.get? id = none)
    (unheard : ∀ moment ∈ moments, moment.event.connection ≠ id) :
    final.connections.get? id = none :=
  run.keeps (fun state => state.connections.get? id = none) (fun _ known => known)
    (fun moment member known => by
      rw [after, get?_handle_of_ne server moment.state (unheard moment member), known]) unknown

/-- In an orderly run, nothing happens on a connection before it is reported, and nothing that
happens on it is followed by its report. -/
theorem orderly_cut {before later : List (Moment τ σ ξ φ)} {moment : Moment τ σ ξ φ}
    (orderly : Orderly ((before ++ moment :: later).map Moment.event)) :
    (∀ earlier ∈ before, moment.event ≠ .connected earlier.event.connection) ∧
      ∀ next ∈ later, next.event ≠ .connected moment.event.connection := by
  rw [Orderly, List.map_append, List.map_cons, List.pairwise_append, List.pairwise_cons] at orderly
  obtain ⟨_, ⟨following, _⟩, preceding⟩ := orderly
  constructor
  · intro earlier member
    exact preceding _ (List.mem_map_of_mem member) _ (List.mem_cons_self ..)
  · intro next member
    exact following _ (List.mem_map_of_mem member)

/-- In an orderly run, whatever comes before a connection is reported is about other ones. -/
theorem apart_of_orderly {id : ConnectionId} {moments before later : List (Moment τ σ ξ φ)}
    {state : State τ σ ξ φ} (orderly : Orderly (moments.map Moment.event))
    (cut : moments = before ++ ⟨.connected id, state⟩ :: later) :
    ∀ moment ∈ before, moment.event.connection ≠ id := by
  intro moment member same
  exact (orderly_cut (cut ▸ orderly)).1 moment member (by rw [same])

/-- What a run does and does not send on one connection that is greeted with this packet. -/
structure Disciplined (server : Dispatcher τ σ ξ φ) (hello : Bytes)
    (moments : List (Moment (τ × List Call) σ ξ φ)) (calls : List Call) (id : ConnectionId) :
    Prop where
  /-- The calls are those of the events, one event after the other. -/
  made : calls = moments.flatMap server.emitted
  /-- What is never reported gets nothing. -/
  unreported (absent : ∀ moment ∈ moments, moment.event ≠ .connected id) :
    Call.delivered id calls = []
  /-- No call is about the connection before it is reported. -/
  unheard {before later : List (Moment (τ × List Call) σ ξ φ)} {state : State (τ × List Call) σ ξ φ}
    (cut : moments = before ++ ⟨.connected id, state⟩ :: later) :
    ∀ call ∈ before.flatMap server.emitted, call.connection ≠ id
  /-- The greeting gets through first, and one answer for each request that is served. -/
  greeted {before later : List (Moment (τ × List Call) σ ξ φ)} {state : State (τ × List Call) σ ξ φ}
    (cut : moments = before ++ ⟨.connected id, state⟩ :: later)
    (sent : (server.transport.send id hello state.transport.1).1 = .ok ()) :
    ∃ replies, Call.delivered id calls = hello :: replies ∧
      List.Forall₂ (fun moment reply => Call.delivered id (server.emitted moment) = [reply] ∧
        IsAnswer reply) (moments.filter (server.serves id)) replies
  /-- What cannot be greeted gets nothing, and nothing is tried again. -/
  turnedAway {before later : List (Moment (τ × List Call) σ ξ φ)}
    {state : State (τ × List Call) σ ξ φ} {cause : TransportError}
    (cut : moments = before ++ ⟨.connected id, state⟩ :: later)
    (unsent : (server.transport.send id hello state.transport.1).1 = .error cause) :
    Call.delivered id calls = [] ∧ ∀ call ∈ later.flatMap server.emitted, ¬ call.Sends id
  /-- A packet that is refused gets nothing through to anybody, ends its connection, and is the
  last thing on it that is followed by any sending. -/
  refused {before later : List (Moment (τ × List Call) σ ξ φ)} {packet : Bytes}
    {state : State (τ × List Call) σ ξ φ} {cause : RequestError}
    (cut : moments = before ++ ⟨.received id packet, state⟩ :: later)
    (refusal : (server.recordingCalls.receive id packet state).1 = .error cause) :
    (∀ other, Call.delivered other (server.emitted ⟨.received id packet, state⟩) = []) ∧
      .closed id ∈ server.emitted ⟨.received id packet, state⟩ ∧
      (server.recordingCalls.handle (.received id packet) state).connections.get? id = none ∧
      ∀ call ∈ later.flatMap server.emitted, ¬ call.Sends id
  /-- Whatever is handed over fits a frame. -/
  framed {packet : Bytes} {taken : Bool} (handed : .sent id packet taken ∈ calls) :
    (packet.length = 40 ∨ packet.length = 180) ∧ ∃ frame, Frame.encode packet = .ok frame

/-- A refusal closes the connection it came on, and gets nothing through. -/
theorem Emits.of_refused {server : Dispatcher τ σ ξ φ} {id : ConnectionId} {packet : Bytes}
    {state : State (τ × List Call) σ ξ φ} {calls : List Call} {cause : RequestError}
    (emits : server.Emits ⟨.received id packet, state⟩ calls)
    (refusal : (server.recordingCalls.receive id packet state).1 = .error cause) :
    (∀ other, Call.delivered other calls = []) ∧ .closed id ∈ calls := by
  -- A refusal is none of the outcomes that take a packet up, so the connection is closed.
  cases emits with
  | established _ _ _ taken => simp [refusal] at taken
  | answered _ _ _ _ _ taken => simp [refusal] at taken
  | refused => simp [Call.delivered, Call.through?]
  | unsent => simp [Call.delivered, Call.through?]
  | left _ _ _ gone => simp at gone

/-- Greeting a connection gets the greeting through to it exactly when the transport takes it. -/
theorem Emits.of_connected {server : Dispatcher τ σ ξ φ} {id : ConnectionId}
    {state : State (τ × List Call) σ ξ φ} {calls : List Call}
    (emits : server.Emits ⟨.connected id, state⟩ calls) :
    Call.delivered id calls =
      if (server.transport.send id (Handshake.hello server.keys).encode
          state.transport.1).1 = .ok ()
      then [(Handshake.hello server.keys).encode] else [] := by
  -- The transport takes the greeting or it does not, and the calls tell which.
  cases emits with
  | greeted _ _ sent => simp [sent, Call.delivered, Call.through?]
  | turnedAway _ _ cause unsent => simp [unsent, Call.delivered, Call.through?]
  | left _ _ _ gone => simp at gone

/-- A connection that could not be greeted has no entry. -/
theorem get?_handle_of_turnedAway (server : Dispatcher τ σ ξ φ) {id : ConnectionId}
    {state : State τ σ ξ φ} {cause : TransportError}
    (unsent : (server.transport.send id (Handshake.hello server.keys).encode state.transport).1 =
      .error cause) (unknown : state.connections.get? id = none) :
    (server.handle (.connected id) state).connections.get? id = none := by
  -- The entry is made only once the greeting is taken.
  cases sent : server.transport.send id (Handshake.hello server.keys).encode state.transport with
  | mk outcome transport =>
    rw [sent] at unsent
    subst unsent
    simp [handle, welcome, sent, State.note, unknown]

section Reported

variable {server : Dispatcher τ σ ξ φ} {id : ConnectionId}
  {moments before later : List (Moment (τ × List Call) σ ξ φ)}
  {state : State (τ × List Call) σ ξ φ}

/-- Events on other connections make no calls on this one. -/
theorem unheard_of_apart (apart : ∀ moment ∈ before, moment.event.connection ≠ id) :
    ∀ call ∈ before.flatMap server.emitted, call.connection ≠ id := by
  intro call made
  obtain ⟨moment, member, emitted⟩ := List.mem_flatMap.mp made
  rw [(server.emits_emitted moment).1.connection_eq emitted]
  exact apart moment member

/-- What a run gets through to a connection starts when the connection is reported. -/
theorem delivered_of_cut (cut : moments = before ++ ⟨.connected id, state⟩ :: later)
    (apart : ∀ moment ∈ before, moment.event.connection ≠ id) :
    Call.delivered id (moments.flatMap server.emitted) =
      Call.delivered id (server.emitted ⟨.connected id, state⟩) ++
        Call.delivered id (later.flatMap server.emitted) := by
  -- Nothing is about the connection before it is reported, so nothing gets through to it either.
  have silent : Call.delivered id (before.flatMap server.emitted) = [] := by
    refine Call.delivered_of_silent ?_
    rintro call made ⟨packet, taken, rfl⟩
    exact unheard_of_apart apart _ made rfl
  rw [cut, List.flatMap_append, List.flatMap_cons, Call.delivered_append, Call.delivered_append,
    silent, List.nil_append]

/-- The requests that are served on a connection come after it is reported. -/
theorem served_of_cut (cut : moments = before ++ ⟨.connected id, state⟩ :: later)
    (apart : ∀ moment ∈ before, moment.event.connection ≠ id) :
    moments.filter (server.serves id) = later.filter (server.serves id) := by
  have none : before.filter (server.serves id) = [] := by
    rw [List.filter_eq_nil_iff]
    intro moment member serving
    -- Only a packet on the connection itself is served on it.
    unfold serves at serving
    split at serving
    · rename_i came
      refine apart moment member ?_
      rw [came]
      exact (of_decide_eq_true serving).1
    · cases serving
  rw [cut, List.filter_append, none, List.filter_cons_of_neg (by simp [serves]), List.nil_append]

end Reported

/-- In an orderly run from a fresh start, every connection is greeted with the version and the
server's key before it hears anything else, hears one answer for each request that is served, and
nothing more once it is refused. -/
theorem disciplined_of_orderly (server : Dispatcher τ σ ξ φ) (budget : Nat) (transport : τ)
    (crypto : σ) (invoker : Invoker.State ξ φ) (log : List Notice)
    (orderly : Orderly ((server.recordingCalls.history budget
      (.fresh transport crypto invoker log)).map Moment.event)) (id : ConnectionId) :
    ∃ hello, IsGreeting server.keys.publicKey hello ∧ server.Disciplined hello
      (server.recordingCalls.history budget (.fresh transport crypto invoker log))
      (server.recordingCalls.steps budget (.fresh transport crypto invoker log)).2.calls id := by
  have run := server.recordingCalls.run_steps budget (.fresh transport crypto invoker log)
  generalize server.recordingCalls.history budget (.fresh transport crypto invoker log) = moments
    at run orderly
  generalize (server.recordingCalls.steps budget (.fresh transport crypto invoker log)).2 = final
    at run
  -- Everything follows from the calls of single events and from where the run is cut.
  have made : final.calls = moments.flatMap server.emitted := calls_of_run run
  refine ⟨(Handshake.hello server.keys).encode, isGreeting_hello server.keys, ?_⟩
  exact {
    made
    unreported := fun absent => made ▸ Call.delivered_of_silent (silent_of_unknown run rfl absent)
    unheard := fun cut => unheard_of_apart (apart_of_orderly orderly cut)
    greeted := by
      intro before later state cut sent
      have apart := apart_of_orderly orderly cut
      have now := (server.emits_emitted ⟨.connected id, state⟩).1.of_connected
      rw [if_pos sent] at now
      -- What follows the greeting are the answers of the later events, and no event is served
      -- before.
      refine ⟨Call.delivered id (later.flatMap server.emitted), ?_, ?_⟩
      · rw [made, delivered_of_cut cut apart, now, List.singleton_append]
      · rw [served_of_cut cut apart]
        exact answers_of_moments (orderly_cut (cut ▸ orderly)).2
    turnedAway := by
      intro before later state cause cut unsent
      have apart := apart_of_orderly orderly cut
      have now := (server.emits_emitted ⟨.connected id, state⟩).1.of_connected
      rw [unsent, if_neg (by simp)] at now
      -- The connection had no entry before the greeting, and none was made by it.
      have unknown : state.connections.get? id = none :=
        unknown_of_unheard (run.split cut).1 rfl apart
      have silent := silent_of_unknown (run.split cut).2
        (server.recordingCalls.get?_handle_of_turnedAway unsent unknown)
        (orderly_cut (cut ▸ orderly)).2
      refine ⟨?_, silent⟩
      rw [made, delivered_of_cut cut apart, now, Call.delivered_of_silent silent, List.nil_append]
    refused := by
      intro before later packet state cause cut refusal
      obtain ⟨nothing, closing⟩ :=
        (server.emits_emitted ⟨.received id packet, state⟩).1.of_refused refusal
      -- The entry is taken away at once, and no later event reports the connection anew.
      have gone := get?_handle_of_refused refusal
      exact ⟨nothing, closing, gone,
        silent_of_unknown (run.split cut).2 gone (orderly_cut (cut ▸ orderly)).2⟩
    framed := by
      intro packet taken handed
      rw [made] at handed
      obtain ⟨moment, _, emitted⟩ := List.mem_flatMap.mp handed
      -- Greetings take forty bytes and answers a hundred and eighty, both less than a frame may
      -- hold.
      have length : packet.length = 40 ∨ packet.length = 180 := by
        rcases (server.emits_emitted moment).1.packet_eq emitted with rfl | form
        · exact .inl (KeyExchange.length_encode _)
        · exact .inr form.1
      have small : packet.length ≤ Frame.maxLength := by
        rw [Frame.maxLength]
        omega
      obtain ⟨header, _, framed⟩ := Frame.encode_eq (by omega) small
      exact ⟨length, header ++ packet, framed⟩ }

/-- A client that connects and then sends a single byte hears the greeting, which is spelled out
here, and nothing more. -/
theorem disciplined_of_malformed :
    let server := onLoopback .standard .idle default ⟨[]⟩ ⟨0⟩
    let start := State.fresh ((Loopback.connect {} ⟨1⟩).deliver ⟨1⟩ [7]) default ⟨.start (), ()⟩ []
    let calls := (server.recordingCalls.steps 3 start).2.calls
    let key : Bytes := [
      47, 229, 125, 163, 71, 205, 98, 67, 21, 40, 218, 172, 95, 187, 41, 7,
      48, 255, 246, 132, 175, 196, 207, 194, 237, 144, 153, 95, 88, 203, 59, 116]
    (server.recordingCalls.history 3 start).map Moment.event =
        [.connected ⟨1⟩, .received ⟨1⟩ [7]] ∧
      (∃ hello, IsGreeting server.keys.publicKey hello ∧
        server.Disciplined hello (server.recordingCalls.history 3 start) calls ⟨1⟩) ∧
      Call.delivered ⟨1⟩ calls = [[0, 0, 0, 0, 1, 0, 0, 0] ++ key] ∧
      .closed ⟨1⟩ ∈ calls :=
  ⟨by decide, disciplined_of_orderly _ 3 _ _ _ _ (by decide) ⟨1⟩, by decide +kernel,
    by decide +kernel⟩

end Dispatcher

end CallGate
