import CallGate.Proofs.Steady
import CallGate.Proofs.Transport.Line

/-! One event in two servers that stand alike towards its connection. -/

namespace CallGate

/-- Two outcomes of which one is a success exactly if the other one is. -/
private theorem both_of_isOk {ε δ α β : Type} {one : Except ε α} {two : Except δ β}
    (same : one.isOk = two.isOk) :
    (∃ first second, one = .ok first ∧ two = .ok second) ∨
      ∃ first second, one = .error first ∧ two = .error second := by
  -- An outcome is a success or an error, which makes four cases, of which two are ruled out.
  cases one <;> cases two <;> simp_all [Except.isOk, Except.toBool]

namespace Dispatcher

variable {τ σ ξ φ : Type}

/-- Handling an event does nothing to the transport but send on the event's own connection and
close it. -/
theorem transport_handle (server : Dispatcher τ σ ξ φ) {event : Event} (state : State τ σ ξ φ)
    (holds : τ → Prop)
    (sending : ∀ packet transport, holds transport →
      holds (server.transport.send event.connection packet transport).2)
    (closing : ∀ transport, holds transport →
      holds (server.transport.disconnect event.connection transport))
    (start : holds state.transport) : holds (server.handle event state).transport := by
  -- The property is carried through the sends and closings of each kind of event.
  cases event with
  | connected id =>
    have sent := sending (Handshake.hello server.keys).encode state.transport start
    simp only [handle, welcome]
    -- The greeting is sent in any case, and a client that does not get it is turned away.
    split
    · rename_i cause transport failed
      rw [Event.connection, failed] at sent
      exact closing transport sent
    · rename_i transport taken
      rwa [Event.connection, taken] at sent
  | received id packet =>
    have reception := server.receive_reception id packet state
    cases received : server.receive id packet state with
    | mk outcome next =>
      rw [received] at reception
      -- Only an answer is sent, and what is refused is closed behind it.
      have kept : holds next.transport := by
        cases reception with
        | unsent session text opening sealing region answer invoker reply cause transport request
            found ran wrapped sent =>
          have handed := sending reply.encode state.transport start
          rwa [Event.connection, sent] at handed
        | served session text opening sealing region answer invoker reply transport request found
            ran wrapped sent =>
          have handed := sending reply.encode state.transport start
          rwa [Event.connection, sent] at handed
        | _ => exact start
      cases outcome with
      | ok _ => rwa [handle_of_taken received]
      | error cause =>
        rw [handle_of_refused received]
        exact closing next.transport kept
  | disconnected id =>
    -- A connection that has gone is only forgotten.
    simp only [handle, State.forget]
    split <;> exact start
  | timedOut id =>
    simp only [handle, State.forget]
    split <;> exact start

/-- What a client can make of a packet it gets. -/
structure Reply where
  kind : Except PacketError PacketKind
  length : Nat
  /-- The packet itself, unless it is a sealed answer. -/
  clear : Option Bytes
  /-- What its session opens the packet to. -/
  content : Option RegisterFile

/-- The packet is the server's greeting, or an answer that opens. -/
inductive Reply.Legible (greeting : Bytes) : Reply → Prop
  | greeting (content : Option RegisterFile) :
    Legible greeting ⟨.ok .keyExchange, KeyExchange.size, some greeting, content⟩
  | answer (file : RegisterFile) :
    Legible greeting ⟨.ok .stateTransfer, Envelope.size, none, some file⟩

/-- A packet as the client of a connection reads it. -/
def reading (server : Dispatcher τ σ ξ φ) (id : ConnectionId) (state : State τ σ ξ φ)
    (packet : Bytes) : Reply where
  kind := PacketKind.peek packet
  length := packet.length
  clear :=
    match PacketKind.peek packet with
    | .ok .stateTransfer => none
    | _ => some packet
  content :=
    match state.connections.get? id with
    | some (.established session) =>
      (Channel.unwrap server.crypto session packet state.crypto).1.toOption.map (·.2)
    | _ => none

/-- The packets that are sent on a connection while an event is handled. -/
def handed (server : Dispatcher Loopback σ ξ φ) (id : ConnectionId)
    (moment : Moment Loopback σ ξ φ) : List Bytes :=
  ((server.after moment).transport.sentTo id).drop (moment.state.transport.sentTo id).length

/-- What a server does next on a connection is the same in both states. -/
structure Alike (id : ConnectionId) (left right : State Loopback σ ξ φ) : Prop where
  phase : left.connections.get? id = right.connections.get? id
  line : left.transport.line id = right.transport.line id

/-- Both states went on in the same way, and the connection got the same to read. -/
structure Parallel (server : Dispatcher Loopback σ ξ φ) (id : ConnectionId)
    (left right next other : State Loopback σ ξ φ) : Prop where
  alike : Alike id next other
  answered : ∃ first second, next.transport.sentTo id = left.transport.sentTo id ++ first ∧
    other.transport.sentTo id = right.transport.sentTo id ++ second ∧
    first.map (server.reading id left) = second.map (server.reading id right) ∧
    ∀ packet ∈ first,
      (server.reading id left packet).Legible (Handshake.hello server.keys).encode

section TwoRuns

variable {server : Dispatcher Loopback σ ξ φ} {id : ConnectionId}
  {left right next other : State Loopback σ ξ φ}

/-- Where nothing is sent on either side, both go on in the same way. -/
theorem Alike.quiet (alike : Alike id left right) (first : next.transport = left.transport)
    (second : other.transport = right.transport)
    (phase : next.connections.get? id = other.connections.get? id) :
    server.Parallel id left right next other where
  -- The lines are those of before, and so is what was sent, with nothing added.
  alike := ⟨phase, by rw [first, second, alike.line]⟩
  answered := ⟨[], [], by simp [first], by simp [second], rfl, by simp⟩

/-- Sending what reads the same in both states fails in both or in none, and both go on in the
same way. -/
theorem Alike.sending (alike : Alike id left right) {one two : Bytes}
    (same : server.reading id left one = server.reading id right two)
    (legible : (server.reading id left one).Legible (Handshake.hello server.keys).encode) :
    ∃ transport transport',
      ((left.transport.send id one = (.ok (), transport) ∧
          right.transport.send id two = (.ok (), transport')) ∨
        ∃ cause cause', left.transport.send id one = (.error cause, transport) ∧
          right.transport.send id two = (.error cause', transport')) ∧
      ∀ next other : State Loopback σ ξ φ, next.transport = transport →
        other.transport = transport' →
        next.connections.get? id = other.connections.get? id →
        server.Parallel id left right next other := by
  -- A line takes a packet or not, and the two lines are the same.
  have taking : (left.transport.send id one).1.isOk = (right.transport.send id two).1.isOk := by
    rw [Loopback.isOk_send, Loopback.isOk_send, alike.line]
  -- Sending changes neither line, and each keeps what it takes.
  have line := Loopback.line_send left.transport id id one
  have line' := Loopback.line_send right.transport id id two
  have kept := Loopback.sentTo_send left.transport id id one
  have kept' := Loopback.sentTo_send right.transport id id two
  rcases sent : left.transport.send id one with ⟨verdict, transport⟩
  rcases resent : right.transport.send id two with ⟨verdict', transport'⟩
  rw [sent, resent] at taking
  rw [sent] at line kept
  rw [resent] at line' kept'
  refine ⟨transport, transport', ?_, ?_⟩
  -- Success and failure come together, and each on its own side leaves the transport as named.
  · obtain ⟨_, _, rfl, rfl⟩ | ⟨cause, cause', rfl, rfl⟩ := both_of_isOk taking
    · exact .inl ⟨rfl, rfl⟩
    · exact .inr ⟨cause, cause', rfl, rfl⟩
  · intro next other first second phase
    refine ⟨⟨phase, by rw [first, second, line, line', alike.line]⟩, _, _, by rw [first, kept],
      by rw [second, kept'], ?_⟩
    -- Both lines take the packet, or none does.
    rw [alike.line]
    by_cases takes : (right.transport.line id).takes
    · simp [takes, same, same ▸ legible]
    · simp [takes]

/-- Closing the connection in both states goes on in the same way. -/
theorem Parallel.closed (parallel : server.Parallel id left right next other)
    {last final : State Loopback σ ξ φ} (first : last.transport = next.transport.disconnect id)
    (second : final.transport = other.transport.disconnect id)
    (phase : last.connections.get? id = final.connections.get? id) :
    server.Parallel id left right last final where
  -- Closing does the same to two equal lines, and hands nothing over.
  alike := ⟨phase, by
    rw [first, second, Loopback.line_disconnect, Loopback.line_disconnect, parallel.alike.line]⟩
  answered := by
    rw [first, second]
    exact parallel.answered

/-- An answer as its client reads it. -/
theorem reading_of_answer {session : Session} {file : RegisterFile} {reply : Envelope}
    {state : State Loopback σ ξ φ} (known : state.connections.get? id = some (.established session))
    (kind : reply.kind = .stateTransfer)
    (opens : OpensTo server.crypto session (.ok file) reply.encode) :
    server.reading id state reply.encode =
      ⟨.ok .stateTransfer, Envelope.size, none, some file⟩ := by
  -- The session opens the answer in every state, so it does in this one.
  obtain ⟨_, same, unwraps⟩ := opens
  obtain ⟨next, unwrapped⟩ := unwraps state.crypto
  cases same
  simp [reading, known, kind, unwrapped, Except.toOption]

/-- Two attempts at an answer that come to the same: both fail, or both open to one file. -/
inductive Matched (crypto : Primitives σ) (session : Session) :
    Except RequestError Envelope → Except RequestError Envelope → Prop
  | refused (one two : RequestError) : Matched crypto session (.error one) (.error two)
  | sealed (file : RegisterFile) (one two : Envelope) (first : one.kind = .stateTransfer)
    (second : two.kind = .stateTransfer) (opens : OpensTo crypto session (.ok file) one.encode)
    (reopens : OpensTo crypto session (.ok file) two.encode) :
    Matched crypto session (.ok one) (.ok two)

/-- What a request is answered with is decided by the session and the packet. -/
theorem matched_answer (steady : server.crypto.Steady) (constant : server.invoker.Steady)
    (session : Session) (packet : Bytes) (one two : σ) (first second : Invoker.State ξ φ) :
    Matched server.crypto session (server.answer session packet one first).1
      (server.answer session packet two second).1 := by
  -- Opening, running and sealing follow each other, and each comes to the same in both.
  have opening := Channel.unwrap_steady steady session packet one two
  rcases unwrapped : Channel.unwrap server.crypto session packet one with ⟨outcome, one⟩
  rcases reopened : Channel.unwrap server.crypto session packet two with ⟨outcome', two⟩
  -- Steady primitives open the packet in both states, with the same outcome.
  rw [unwrapped, reopened] at opening
  subst opening
  cases outcome with
  | error error =>
    simp only [answer, unwrapped, reopened]
    exact .refused _ _
  | ok opened =>
    -- A steady invoker runs the same region to the same result.
    have running := Invoker.invoke_steady constant server.table opened.2 first second
    rcases ran : server.invoker.invoke server.table opened.2 first with ⟨outcome, first⟩
    rcases reran : server.invoker.invoke server.table opened.2 second with ⟨outcome', second⟩
    rw [ran, reran] at running
    subst running
    cases outcome with
    | error error =>
      simp only [answer, unwrapped, reopened, ran, reran]
      exact .refused _ _
    | ok file =>
      have sealing := Channel.isOk_wrap steady session .stateTransfer file one two
      rcases wrapped : Channel.wrap server.crypto session .stateTransfer file one with
        ⟨outcome, one⟩
      rcases rewrapped : Channel.wrap server.crypto session .stateTransfer file two with
        ⟨outcome', two⟩
      rw [wrapped, rewrapped] at sealing
      simp only [answer, unwrapped, reopened, ran, reran, wrapped, rewrapped]
      -- The nonces differ, so the answers do, but both of them open to the same register file.
      obtain ⟨reply, reply', rfl, rfl⟩ | ⟨error, error', rfl, rfl⟩ := both_of_isOk sealing
      · exact .sealed file reply reply' (Channel.encrypt_of_wrap wrapped).1
          (Channel.encrypt_of_wrap rewrapped).1 (Channel.opensTo_wrap steady wrapped)
          (Channel.opensTo_wrap steady rewrapped)
      · exact .refused _ _

/-- Receiving a packet comes to the same in both states. -/
structure Paired (server : Dispatcher Loopback σ ξ φ) (id : ConnectionId)
    (left right : State Loopback σ ξ φ)
    (one two : Except RequestError Unit × State Loopback σ ξ φ) : Prop where
  verdict : one.1.isOk = two.1.isOk
  parallel : server.Parallel id left right one.2 two.2

/-- A packet that is refused at once leaves both states alike. -/
theorem Alike.refused (alike : Alike id left right) (one two : RequestError) :
    server.Paired id left right (.error one, left) (.error two, right) :=
  -- Both verdicts are refusals, and nothing was sent.
  ⟨rfl, alike.quiet rfl rfl alike.phase⟩

/-- A packet that opens like a key exchange is taken or refused alike in both states. -/
theorem Alike.establish (steady : server.crypto.Steady) (alike : Alike id left right)
    (packet : Bytes) :
    server.Paired id left right (server.establish id packet left)
      (server.establish id packet right) := by
  -- The connection stands at the same point in both states, so the cases are common to them.
  unfold Dispatcher.establish
  rw [← alike.phase]
  cases left.connections.get? id with
  | none => exact alike.refused _ _
  | some phase =>
    cases phase with
    | established session => exact alike.refused _ _
    | awaiting =>
      cases KeyExchange.decode packet with
      | error error => exact alike.refused _ _
      | ok message =>
        -- Both states derive the same session, or refuse the same version.
        have agreed := Handshake.complete_steady steady server.keys message left.crypto
          right.crypto
        rcases completed : Handshake.complete server.crypto server.keys message left.crypto with
          ⟨outcome, one⟩
        rcases recompleted : Handshake.complete server.crypto server.keys message
          right.crypto with ⟨outcome', two⟩
        rw [completed, recompleted] at agreed
        subst agreed
        simp only [completed, recompleted]
        -- Nothing is sent in either case, and an entry that is made is the same one.
        cases outcome with
        | error error => exact ⟨rfl, alike.quiet rfl rfl alike.phase⟩
        | ok session =>
          refine ⟨rfl, alike.quiet rfl rfl ?_⟩
          simp [State.note, Connections.get?_insert]

/-- A packet that opens like a request is answered or refused alike in both states. -/
theorem Alike.execute (inMemory : server.transport = Loopback.transport)
    (steady : server.crypto.Steady) (constant : server.invoker.Steady)
    (alike : Alike id left right) (packet : Bytes) :
    server.Paired id left right (server.execute id packet left)
      (server.execute id packet right) := by
  -- Where the connection stands is the same in both states, and so is its session.
  unfold Dispatcher.execute
  rw [← alike.phase]
  cases known : left.connections.get? id with
  | none => exact alike.refused _ _
  | some phase =>
    cases phase with
    | awaiting => exact alike.refused _ _
    | established session =>
      have matched := matched_answer steady constant session packet left.crypto right.crypto
        left.invoker right.invoker
      rcases answered : server.answer session packet left.crypto left.invoker with
        ⟨outcome, crypto, invoker⟩
      rcases reanswered : server.answer session packet right.crypto right.invoker with
        ⟨outcome', crypto', invoker'⟩
      rw [answered, reanswered] at matched
      simp only [answered, reanswered, inMemory]
      -- The answers match: both are refused, or both are sealed for the same register file.
      cases matched with
      | refused => exact ⟨rfl, alike.quiet rfl rfl alike.phase⟩
      | sealed file reply reply' kind kind' opens reopens =>
        have reads := reading_of_answer known kind opens
        have rereads := reading_of_answer (alike.phase ▸ known) kind' reopens
        -- Both lines take the answer, or none does, and then the request is refused.
        obtain ⟨transport, transport', outcome, parallel⟩ :=
          alike.sending (reads.trans rereads.symm) (reads ▸ .answer file)
        obtain ⟨sent, resent⟩ | ⟨cause, cause', sent, resent⟩ := outcome
        all_goals
          simp only [Loopback.transport, sent, resent]
          exact ⟨rfl, parallel _ _ rfl rfl alike.phase⟩

/-- A packet is received alike in both states. -/
theorem Alike.receive (inMemory : server.transport = Loopback.transport)
    (steady : server.crypto.Steady) (constant : server.invoker.Steady)
    (alike : Alike id left right) (packet : Bytes) :
    server.Paired id left right (server.receive id packet left)
      (server.receive id packet right) := by
  -- What the packet opens with is all that decides how it is received.
  unfold Dispatcher.receive
  cases PacketKind.peek packet with
  | error error => exact alike.refused _ _
  | ok kind =>
    cases kind with
    | keyExchange => exact alike.establish steady packet
    | execute => exact alike.execute inMemory steady constant packet
    | stateTransfer => exact alike.refused _ _

/-- A client is greeted alike in both states. -/
theorem Alike.welcome (inMemory : server.transport = Loopback.transport)
    (steady : server.crypto.Steady) (alike : Alike id left right) :
    server.Parallel id left right (server.welcome id left) (server.welcome id right) := by
  -- The greeting is the same packet in both states, and it is no answer in either.
  have reads : server.reading id left (Handshake.hello server.keys).encode =
      server.reading id right (Handshake.hello server.keys).encode := by
    simp only [Dispatcher.reading, alike.phase, Channel.unwrap_steady steady _ _ left.crypto
      right.crypto]
  have legible : (server.reading id left (Handshake.hello server.keys).encode).Legible
      (Handshake.hello server.keys).encode := by
    simp only [Dispatcher.reading, KeyExchange.peek_encode, KeyExchange.length_encode]
    exact .greeting _
  obtain ⟨transport, transport', outcome, parallel⟩ := alike.sending reads legible
  unfold Dispatcher.welcome
  simp only [inMemory, Loopback.transport]
  -- Taken in both, the client has an entry in both.
  obtain ⟨sent, resent⟩ | ⟨cause, cause', sent, resent⟩ := outcome
  · simp only [sent, resent]
    refine parallel _ _ rfl rfl ?_
    simp [State.note, Connections.get?_insert]
  · -- A client that cannot be greeted is turned away in both states.
    simp only [sent, resent]
    exact (parallel { left with transport } { right with transport := transport' } rfl rfl
      alike.phase).closed rfl rfl alike.phase

/-- A connection is forgotten alike in both states. -/
theorem Alike.forget (alike : Alike id left right) (notice notice' : Notice) :
    server.Parallel id left right (left.forget id notice) (right.forget id notice') := by
  -- Forgetting takes an entry away and leaves the transport alone.
  have gone (state : State Loopback σ ξ φ) (notice : Notice) :
      (state.forget id notice).transport = state.transport := by
    unfold State.forget
    split <;> rfl
  exact alike.quiet (gone left notice) (gone right notice')
    (by rw [get?_forget, get?_forget])

/-- An event on the connection itself does the same in both states. -/
theorem Alike.handle (inMemory : server.transport = Loopback.transport)
    (steady : server.crypto.Steady) (constant : server.invoker.Steady)
    (alike : Alike id left right) {event : Event} (own : event.connection = id) :
    server.Parallel id left right (server.handle event left) (server.handle event right) := by
  -- The cases are the kinds of the event, and each has its own lemma.
  subst own
  cases event with
  | connected id => exact alike.welcome inMemory steady
  | disconnected id => exact alike.forget _ _
  | timedOut id => exact alike.forget _ _
  | received id packet =>
    obtain ⟨verdict, parallel⟩ := alike.receive inMemory steady constant packet
    simp only [Dispatcher.handle, Event.connection] at verdict parallel ⊢
    rcases received : server.receive id packet left with ⟨outcome, next⟩
    rcases rereceived : server.receive id packet right with ⟨outcome', other⟩
    rw [received, rereceived] at verdict parallel
    -- A packet is refused in both states, whatever the causes are, or in none.
    obtain ⟨_, _, rfl, rfl⟩ | ⟨cause, cause', rfl, rfl⟩ := both_of_isOk verdict
    · exact parallel
    · have closing (cause : RequestError) (state : State Loopback σ ξ φ) :
          (server.reject id cause state).transport = state.transport.disconnect id := by
        rw [reject, inMemory]
        rfl
      refine parallel.closed (closing cause next) (closing cause' other) ?_
      simp [reject, State.note, Connections.get?_erase]

/-- An event on the connection itself makes the same entry in both states. -/
theorem Alike.entered? (steady : server.crypto.Steady) (constant : server.invoker.Steady)
    (alike : Alike id left right) {event : Event} (own : event.connection = id) :
    server.entered? ⟨event, left⟩ = server.entered? ⟨event, right⟩ := by
  subst own
  -- Only a packet makes an entry, which depends on the session, the text and the baseline.
  cases event with
  | received id packet =>
    have phase : left.connections.get? id = right.connections.get? id := alike.phase
    simp only [Dispatcher.entered?, phase, answerEntered?, Invoker.entered?,
      Channel.unwrap_steady steady _ _ left.crypto right.crypto,
      Invoker.admitted_steady constant _ left.invoker right.invoker]
  | _ => rfl

end TwoRuns

end Dispatcher

end CallGate
