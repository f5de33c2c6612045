import CallGate.Proofs.Channel
import CallGate.Proofs.Crypto.Cipher
import CallGate.Proofs.Dispatcher.History
import CallGate.Proofs.Dispatcher.Reception
import Mathlib.Data.List.Forall2

/-! A conversation over a loopback: a client shakes hands, asks, and gets its answers in order. -/

namespace CallGate

namespace Loopback

/-- What a client does reaches the loopback. -/
def enact (loopback : Loopback) : Event → Loopback
  | .connected id => loopback.connect id
  | .received id packet => loopback.deliver id packet
  | .disconnected id => loopback.hangUp id
  | .timedOut id => loopback.timeOut id

/-- Packets can be sent on a connection once its client has connected. -/
theorem isOpen_connect (loopback : Loopback) (id : ConnectionId) :
    (loopback.connect id).isOpen id = true := by
  by_cases already : id ∈ loopback.opened <;> simp [connect, queue, isOpen, already]

/-- An open connection on which no failure was asked for takes every packet. -/
theorem send_of_open {loopback : Loopback} {id : ConnectionId} (packet : Bytes)
    (opened : loopback.isOpen id = true) (sound : loopback.failing = []) :
    loopback.send id packet = (.ok (), { loopback with
      sent := loopback.sent.insert id ((loopback.sent.get? id).getD [] ++ [packet]) }) := by
  simp [send, opened, sound]

end Loopback

namespace Invoker

variable {ξ φ : Type}

/-- What running register files one after the other gives, and what it leaves. -/
def runs (invoker : Invoker ξ φ) (table : RegionTable) : List RegisterFile → State ξ φ →
    List (Except InvokeError RegisterFile) × State ξ φ
  | [], state => ([], state)
  | file :: files, state =>
    let (outcome, state) := invoker.invoke table file state
    let (outcomes, state) := runs invoker table files state
    (outcome :: outcomes, state)

/-- One more register file runs in what the others left. -/
theorem runs_append_singleton (invoker : Invoker ξ φ) (table : RegionTable)
    (files : List RegisterFile) (file : RegisterFile) (state : State ξ φ) :
    invoker.runs table (files ++ [file]) state =
      ((invoker.runs table files state).1 ++
          [(invoker.invoke table file (invoker.runs table files state).2).1],
        (invoker.invoke table file (invoker.runs table files state).2).2) := by
  -- The last file runs behind all others, so it is reached at the end of the list.
  induction files generalizing state with
  | nil => simp [runs]
  | cons first files ih => simp [runs, ih]

end Invoker

/-- A packet is a register file that the session sealed as a request. -/
def SealedRequest {σ : Type} (crypto : Primitives σ) (session : Session) (file : RegisterFile)
    (packet : Bytes) : Prop :=
  ∃ envelope state next, Channel.wrap crypto session .execute file state = (.ok envelope, next) ∧
    packet = envelope.encode

/-- The session opens a packet to the answer that a run came to. -/
def OpensTo {σ : Type} (crypto : Primitives σ) (session : Session)
    (outcome : Except InvokeError RegisterFile) (packet : Bytes) : Prop :=
  ∃ file, outcome = .ok file ∧ ∀ state, ∃ next,
    Channel.unwrap crypto session packet state = (.ok (.stateTransfer, file), next)

/-- Whose turn it is: the client's, whose next act reaches the loopback, or the server's, which
polls once. -/
inductive Turn where
  | client
  | server
  deriving DecidableEq, Repr

/-- Everything a client does: it connects, sends its key, and then its requests. -/
def script (id : ConnectionId) (client : KeyPair) (requests : List (RegisterFile × Bytes)) :
    List Event :=
  .connected id :: .received id (Handshake.hello client).encode ::
    requests.map fun request => .received id request.2

namespace Dispatcher

variable {σ ξ φ : Type}

/-- Client and server act in turns. Yields what the client has still to do, and the server. -/
def play (server : Dispatcher Loopback σ ξ φ) : List Turn → (acts : List Event) →
    State Loopback σ ξ φ → List Event × State Loopback σ ξ φ
  | [], acts, state => (acts, state)
  | .client :: turns, [], state => play server turns [] state
  | .client :: turns, act :: acts, state =>
    play server turns acts { state with transport := state.transport.enact act }
  | .server :: turns, acts, state => play server turns acts (server.step state).2

/-- How far a conversation has come, and which events are still to be handled. -/
inductive Standing (server : Dispatcher Loopback σ ξ φ) (id : ConnectionId) (client : KeyPair)
    (session : Session) (requests : List (RegisterFile × Bytes)) (first : Invoker.State ξ φ) :
    State Loopback σ ξ φ → (coming : List Event) → Prop
  | unknown (state : State Loopback σ ξ φ)
    (quiet : state.transport.sent.get? id = none)
    (untouched : state.invoker = first) :
    Standing server id client session requests first state (script id client requests)
  | greeted (state : State Loopback σ ξ φ)
    (waiting : state.connections.get? id = some .awaiting)
    (sent : state.transport.sent.get? id = some [(Handshake.hello server.keys).encode])
    (untouched : state.invoker = first) :
    Standing server id client session requests first state
      (.received id (Handshake.hello client).encode ::
        requests.map fun request => .received id request.2)
  | serving (state : State Loopback σ ξ φ) (past rest : List (RegisterFile × Bytes))
    (replies : List Bytes) (whole : requests = past ++ rest)
    (known : state.connections.get? id = some (.established session))
    (sent : state.transport.sent.get? id =
      some ((Handshake.hello server.keys).encode :: replies))
    (answered : List.Forall₂ (OpensTo server.crypto session)
      (server.invoker.runs server.table (past.map (·.1)) first).1 replies)
    (reached : state.invoker = (server.invoker.runs server.table (past.map (·.1)) first).2) :
    Standing server id client session requests first state
      (rest.map fun request => .received id request.2)

namespace Standing

section

variable {server : Dispatcher Loopback σ ξ φ} {id : ConnectionId} {client : KeyPair}
  {session : Session} {requests : List (RegisterFile × Bytes)} {first : Invoker.State ξ φ}
  {state : State Loopback σ ξ φ} {coming : List Event}

/-- Where a conversation stands does not depend on what is queued and which lines are open. -/
theorem of_transport (standing : Standing server id client session requests first state coming)
    (transport : Loopback) (same : transport.sent = state.transport.sent) :
    Standing server id client session requests first { state with transport } coming := by
  -- Of the transport, a standing only speaks of what was sent.
  cases standing with
  | unknown quiet untouched => exact .unknown _ (by rw [same, quiet]) untouched
  | greeted waiting sent untouched => exact .greeted _ waiting (by rw [same, sent]) untouched
  | serving past rest replies whole known sent answered reached =>
    exact .serving _ past rest replies whole known (by rw [same, sent]) answered reached

/-- No more is to come than the client does altogether. -/
theorem length_le (standing : Standing server id client session requests first state coming) :
    coming.length ≤ requests.length + 2 := by
  -- Two events open the conversation, and one more comes for each request.
  cases standing with
  | unknown => simp [script]
  | greeted => simp
  | serving past rest replies whole =>
    rw [whole, List.length_map, List.length_append]
    omega

/-- A conversation in which nothing is to come has given every answer. -/
theorem answered_of_nil (standing : Standing server id client session requests first state []) :
    state.connections.get? id = some (.established session) ∧
      ∃ replies, state.transport.sent.get? id =
          some ((Handshake.hello server.keys).encode :: replies) ∧
        List.Forall₂ (OpensTo server.crypto session)
          (server.invoker.runs server.table (requests.map (·.1)) first).1 replies := by
  generalize none : ([] : List Event) = coming at standing
  -- Before the session there is always something to come, so the session stands.
  cases standing with
  | unknown => simp [script] at none
  | greeted => simp at none
  | serving past rest replies whole known sent answered =>
    have finished : rest = [] := List.map_eq_nil_iff.mp none.symm
    rw [finished, List.append_nil] at whole
    rw [whole]
    exact ⟨known, replies, sent, answered⟩

end

end Standing

section Handling

variable {crypto : Primitives σ} {invoker : Invoker ξ φ} {server client : SecretKey}
  {table : RegionTable} {wait : Duration} {id : ConnectionId} {state : State Loopback σ ξ φ}

/-- A client that connects on an open line is greeted. -/
theorem handle_connected (opened : state.transport.isOpen id = true)
    (sound : state.transport.failing = []) :
    (onLoopback crypto invoker server table wait).handle (.connected id) state =
      { state with
        transport := { state.transport with
          sent := state.transport.sent.insert id ((state.transport.sent.get? id).getD [] ++
            [(Handshake.hello (.ofSecret crypto server)).encode]) }
        connections := state.connections.insert id .awaiting }.note (.clientConnected id) := by
  simp [handle, welcome, onLoopback, Loopback.transport, Loopback.send_of_open _ opened sound]

/-- A client's key establishes the session that the client derives, too. -/
theorem handle_hello (invoker : Invoker ξ φ) {session : Session}
    (agreeing : crypto.Agreeing server client)
    (joined : ∀ state, (Handshake.join crypto (.ofSecret crypto client)
      (Handshake.hello (.ofSecret crypto server)) state).1 = .ok session)
    (waiting : state.connections.get? id = some .awaiting) :
    ∃ next, (onLoopback crypto invoker server table wait).handle
        (.received id (Handshake.hello (.ofSecret crypto client)).encode) state =
      { state with
        crypto := next
        connections := state.connections.insert id (.established session) }.note
          (.sessionEstablished id) := by
  cases completed : Handshake.complete crypto (.ofSecret crypto server)
      (Handshake.hello (.ofSecret crypto client)) state.crypto with
  | mk outcome next =>
    -- The session of the server is the one that joining gives, by the agreement of the keys.
    have same := Handshake.complete_eq_join agreeing state.crypto state.crypto
    rw [completed, joined] at same
    subst same
    refine ⟨next, handle_of_taken ?_⟩
    simp [receive, establish, onLoopback, waiting, completed]

/-- A request within the table is answered with what its run came to. -/
theorem handle_request (invoker : Invoker ξ φ) {session : Session} {file : RegisterFile}
    {packet : Bytes} (inverting : crypto.Inverting)
    (sealed : SealedRequest crypto session file packet) (within : file.token.toNat < table.size)
    (known : state.connections.get? id = some (.established session))
    (opened : state.transport.isOpen id = true) (sound : state.transport.failing = []) :
    ∃ next reply, OpensTo crypto session (invoker.invoke table file state.invoker).1 reply ∧
      (onLoopback crypto invoker server table wait).handle (.received id packet) state =
        { state with
          transport := { state.transport with
            sent := state.transport.sent.insert id
              ((state.transport.sent.get? id).getD [] ++ [reply]) }
          crypto := next
          invoker := (invoker.invoke table file state.invoker).2 } := by
  obtain ⟨envelope, before, last, wrapped, rfl⟩ := sealed
  have kind : envelope.kind = .execute := (Channel.encrypt_of_wrap wrapped).1
  -- The server opens what the client sealed.
  obtain ⟨opening, unwrapped⟩ := Channel.unwrap_wrap inverting rfl wrapped state.crypto
  obtain ⟨region, found⟩ : ∃ region, table.regions[file.token.toNat]? = some region :=
    ⟨_, List.getElem?_eq_getElem within⟩
  -- A region stands at the token, so there is an answer, and it can be sealed.
  obtain ⟨answer, after, ran⟩ := invoker.invoke_of_found state.invoker found
  obtain ⟨reply, sealing, replied⟩ :=
    Channel.exists_wrap inverting session .stateTransfer answer opening
  refine ⟨sealing, reply.encode, ⟨answer, by rw [ran], ?_⟩, handle_of_taken ?_⟩
  · -- The client opens what the server sealed, and it was sealed as a state transfer.
    exact Channel.unwrap_wrap inverting rfl replied
  · simp [receive, execute, Dispatcher.answer, onLoopback, Loopback.transport, kind, known,
      unwrapped, ran, replied, Loopback.send_of_open _ opened sound]

end Handling

/-- What a conversation rests on: primitives that both ends can rely on, the session that the client
derives, and requests that it seals for regions within the table. -/
structure Footing (crypto : Primitives σ) (server client : SecretKey) (table : RegionTable)
    (session : Session) (requests : List (RegisterFile × Bytes)) : Prop where
  agreeing : crypto.Agreeing server client
  inverting : crypto.Inverting
  joined (state : σ) : (Handshake.join crypto (.ofSecret crypto client)
    (Handshake.hello (.ofSecret crypto server)) state).1 = .ok session
  within : ∀ request ∈ requests, request.1.token.toNat < table.size
  sealed : ∀ request ∈ requests, SealedRequest crypto session request.1 request.2

/-- What holds while client and server act in turns: the conversation stands somewhere, what is
still to come is queued or not yet done, and the line is open once the client has connected. -/
structure Ready (server : Dispatcher Loopback σ ξ φ) (id : ConnectionId) (client : KeyPair)
    (session : Session) (requests : List (RegisterFile × Bytes)) (first : Invoker.State ξ φ)
    (acts : List Event) (state : State Loopback σ ξ φ) : Prop where
  standing : Standing server id client session requests first state
    (state.transport.inbound ++ acts)
  remaining : acts <:+ script id client requests
  opened : acts.length < requests.length + 2 → state.transport.isOpen id = true
  sound : state.transport.failing = []

section Playing

variable {crypto : Primitives σ} {invoker : Invoker ξ φ} {server client : SecretKey}
  {table : RegionTable} {wait : Duration} {id : ConnectionId} {session : Session}
  {requests : List (RegisterFile × Bytes)} {first : Invoker.State ξ φ} {acts : List Event}
  {state : State Loopback σ ξ φ}

/-- The next event brings a conversation one event further and touches neither queue nor line. -/
theorem Standing.handle {event : Event} {coming : List Event}
    (footing : Footing crypto server client table session requests)
    (standing : Standing (onLoopback crypto invoker server table wait) id
      (.ofSecret crypto client) session requests first state (event :: coming))
    (opened : state.transport.isOpen id = true) (sound : state.transport.failing = []) :
    Standing (onLoopback crypto invoker server table wait) id (.ofSecret crypto client) session
        requests first ((onLoopback crypto invoker server table wait).handle event state) coming ∧
      ∃ sent, ((onLoopback crypto invoker server table wait).handle event state).transport =
        { state.transport with sent } := by
  generalize future : event :: coming = events at standing
  -- Where the conversation stands says which event is next, and each takes it one step further.
  cases standing with
  | unknown quiet untouched =>
    rw [script, List.cons.injEq] at future
    obtain ⟨rfl, rfl⟩ := future
    rw [handle_connected opened sound]
    refine ⟨.greeted _ ?_ ?_ untouched, _, rfl⟩
    · simp [State.note, Connections.get?_insert]
    · simp [State.note, Connections.get?_insert, quiet, onLoopback]
  | greeted waiting sent untouched =>
    rw [List.cons.injEq] at future
    obtain ⟨rfl, rfl⟩ := future
    obtain ⟨next, handled⟩ := handle_hello invoker footing.agreeing footing.joined waiting
    rw [handled]
    refine ⟨.serving _ [] requests [] rfl ?_ sent .nil untouched, _, rfl⟩
    simp [State.note, Connections.get?_insert]
  | serving past rest replies whole known sent answered reached =>
    cases rest with
    | nil => simp at future
    | cons request rest =>
      rw [List.map_cons, List.cons.injEq] at future
      obtain ⟨rfl, rfl⟩ := future
      have member : request ∈ requests := by simp [whole]
      -- The request is answered in what all requests before it have left.
      obtain ⟨next, reply, opens, handled⟩ := handle_request invoker footing.inverting
        (footing.sealed request member) (footing.within request member) known opened sound
      rw [handled]
      refine ⟨.serving _ (past ++ [request]) rest (replies ++ [reply]) ?_ known ?_ ?_ ?_, _, rfl⟩
      · rw [whole, List.append_assoc, List.singleton_append]
      · simp [Connections.get?_insert, sent]
      · -- The answer is what the request comes to behind all requests before it.
        rw [List.map_append, List.map_singleton, Invoker.runs_append_singleton]
        refine List.rel_append answered (.cons ?_ .nil)
        rw [← reached]
        exact opens
      · rw [List.map_append, List.map_singleton, Invoker.runs_append_singleton, ← reached]
        rfl

/-- The client does nothing but connect and send. -/
theorem mem_script {keys : KeyPair} {act : Event} (member : act ∈ script id keys requests) :
    act = .connected id ∨ ∃ packet, act = .received id packet := by
  -- The client connects, then it sends its key, and all the rest are requests.
  simp only [script, List.mem_cons, List.mem_map] at member
  rcases member with rfl | rfl | ⟨request, _, rfl⟩
  · exact .inl rfl
  · exact .inr ⟨_, rfl⟩
  · exact .inr ⟨_, rfl⟩

/-- The client's next act is queued. -/
theorem Ready.act {server : Dispatcher Loopback σ ξ φ} {keys : KeyPair} {act : Event}
    (ready : Ready server id keys session requests first (act :: acts) state) :
    Ready server id keys session requests first acts
      { state with transport := state.transport.enact act } := by
  have total : (script id keys requests).length = requests.length + 2 := by simp [script]
  have fewer := ready.remaining.length_le
  rw [List.length_cons, total] at fewer
  -- The act moves from what is not yet done to the end of the queue.
  have shift : state.transport.inbound ++ act :: acts =
      (state.transport.inbound ++ [act]) ++ acts := by simp
  -- Connecting opens the line, and sending keeps it open.
  rcases mem_script (ready.remaining.mem (List.mem_cons_self ..)) with rfl | ⟨packet, rfl⟩
  · exact {
      standing := shift ▸ ready.standing.of_transport (state.transport.connect id) rfl
      remaining := (List.suffix_cons _ _).trans ready.remaining
      opened := fun _ => Loopback.isOpen_connect state.transport id
      sound := ready.sound }
  · exact {
      standing := shift ▸ ready.standing.of_transport (state.transport.deliver id packet) rfl
      remaining := (List.suffix_cons _ _).trans ready.remaining
      -- A packet is never the first thing a client does.
      opened := fun _ => ready.opened (by
        rw [List.length_cons]
        rcases Nat.lt_or_ge (acts.length + 1) (requests.length + 2) with less | all
        · exact less
        · have whole := ready.remaining.eq_of_length (by rw [List.length_cons, total]; omega)
          simp [script] at whole)
      sound := ready.sound }

/-- The server's poll takes one event off the queue, if there is one. -/
theorem Ready.poll (footing : Footing crypto server client table session requests)
    (ready : Ready (onLoopback crypto invoker server table wait) id (.ofSecret crypto client)
      session requests first acts state) :
    Ready (onLoopback crypto invoker server table wait) id (.ofSecret crypto client) session
        requests first acts ((onLoopback crypto invoker server table wait).step state).2 ∧
      ((onLoopback crypto invoker server table wait).step state).2.transport.inbound =
        state.transport.inbound.tail := by
  cases queued : state.transport.inbound with
  | nil =>
    -- An empty queue leaves the server as it is.
    have idle : ((onLoopback crypto invoker server table wait).step state).2 = state := by
      simp [step, onLoopback, Loopback.transport, Loopback.poll, queued]
    rw [idle]
    exact ⟨ready, queued⟩
  | cons event rest =>
    have handled : ((onLoopback crypto invoker server table wait).step state).2 =
        (onLoopback crypto invoker server table wait).handle event
          { state with transport := { state.transport with inbound := rest } } := by
      simp [step, onLoopback, Loopback.transport, Loopback.poll, queued]
    have coming : state.transport.inbound ++ acts = event :: (rest ++ acts) := by
      rw [queued, List.cons_append]
    -- Something is queued, so the client has begun, and the line is open.
    have bound := (coming ▸ ready.standing).length_le
    rw [List.length_cons, List.length_append] at bound
    have opened := ready.opened (by omega)
    obtain ⟨standing, sent, transport⟩ :=
      ((coming ▸ ready.standing).of_transport
        { state.transport with inbound := rest } rfl).handle footing opened ready.sound
    rw [handled]
    refine ⟨⟨?_, ready.remaining, fun _ => ?_, ?_⟩, ?_⟩
    · rw [transport]
      exact standing
    · rw [transport]
      exact opened
    · rw [transport]
      exact ready.sound
    · rw [transport]
      rfl

/-- Whatever turns client and server take, the conversation keeps standing somewhere. -/
theorem Ready.play (footing : Footing crypto server client table session requests)
    (turns : List Turn)
    (ready : Ready (onLoopback crypto invoker server table wait) id (.ofSecret crypto client)
      session requests first acts state) :
    Ready (onLoopback crypto invoker server table wait) id (.ofSecret crypto client) session
      requests first ((onLoopback crypto invoker server table wait).play turns acts state).1
      ((onLoopback crypto invoker server table wait).play turns acts state).2 := by
  -- Each turn is an act of the client, a poll of the server, or nothing when the client is done.
  induction turns generalizing acts state with
  | nil => exact ready
  | cons turn turns ih =>
    cases turn with
    | server => exact ih (ready.poll footing).1
    | client =>
      cases acts with
      | nil => exact ih ready
      | cons act acts => exact ih ready.act

/-- A client that has turns enough gets everything done. -/
theorem play_clients (server : Dispatcher Loopback σ ξ φ) (state : State Loopback σ ξ φ)
    {count : Nat} (enough : acts.length ≤ count) :
    (server.play (List.replicate count .client) acts state).1 = [] := by
  -- One act is done in each turn, as long as there is one.
  induction count generalizing acts state with
  | zero => exact List.length_eq_zero_iff.mp (Nat.le_zero.mp enough)
  | succ count ih =>
    cases acts with
    | nil => exact ih _ (Nat.zero_le _)
    | cons act acts => exact ih _ (by simpa using enough)

/-- A server that has turns enough empties the queue. -/
theorem Ready.play_servers (footing : Footing crypto server client table session requests)
    {count : Nat}
    (ready : Ready (onLoopback crypto invoker server table wait) id (.ofSecret crypto client)
      session requests first acts state)
    (enough : state.transport.inbound.length ≤ count) :
    ((onLoopback crypto invoker server table wait).play (List.replicate count .server) acts
        state).1 = acts ∧
      ((onLoopback crypto invoker server table wait).play (List.replicate count .server) acts
        state).2.transport.inbound = [] := by
  induction count generalizing state with
  | zero => exact ⟨rfl, List.length_eq_zero_iff.mp (Nat.le_zero.mp enough)⟩
  | succ count ih =>
    -- Each poll takes one event off the queue, and the client does nothing meanwhile.
    obtain ⟨next, shorter⟩ := ready.poll footing
    exact ih next (by rw [shorter, List.length_tail]; omega)

/-- Turns that follow others go on from where those ended. -/
theorem play_append (server : Dispatcher Loopback σ ξ φ) (first last : List Turn) :
    server.play (first ++ last) acts state =
      server.play last (server.play first acts state).1 (server.play first acts state).2 := by
  induction first generalizing acts state with
  | nil => rfl
  | cons turn first ih =>
    cases turn with
    | server => exact ih
    | client =>
      cases acts with
      | nil => exact ih
      | cons act acts => exact ih

/-- Once the client has done everything and the queue is empty, nothing is to come. -/
theorem Ready.close (footing : Footing crypto server client table session requests)
    {count : Nat} (enough : requests.length + 2 ≤ count)
    (ready : Ready (onLoopback crypto invoker server table wait) id (.ofSecret crypto client)
      session requests first acts state) :
    let closed := (onLoopback crypto invoker server table wait).play
      (List.replicate count .client ++ List.replicate count .server) acts state
    Ready (onLoopback crypto invoker server table wait) id (.ofSecret crypto client) session
      requests first [] closed.2 ∧ closed.2.transport.inbound = [] := by
  -- What is left to do is an end of the script, which the turns suffice for.
  have fewer : acts.length ≤ count := by
    have suffix := ready.remaining.length_le
    simp only [script, List.length_cons, List.length_map] at suffix
    omega
  -- First the client does what is left, and then the server empties the queue.
  have done := ready.play footing (List.replicate count .client)
  have nothing := play_clients (onLoopback crypto invoker server table wait) state fewer
  rw [nothing] at done
  -- By then everything that is still to come lies in the queue.
  have bound := done.standing.length_le
  rw [List.append_nil] at bound
  obtain ⟨same, emptied⟩ := done.play_servers footing
    (Nat.le_trans bound enough)
  have last := done.play footing (List.replicate count .server)
  rw [same] at last
  intro closed
  have whole : closed = _ := play_append _ _ _
  rw [nothing] at whole
  rw [whole]
  exact ⟨last, emptied⟩

end Playing

/-- What a server on a fresh loopback starts with. -/
def State.onLoopback (crypto : σ) (invoker : Invoker.State ξ φ) (log : List Notice) :
    State Loopback σ ξ φ where
  transport := {}
  crypto := crypto
  invoker := invoker
  log := log

/-- A client that shakes hands and sends requests within the table gets one answer for each, in
order and as the invoker gave it, however client and server take turns. -/
theorem conversation (crypto : Primitives σ) (invoker : Invoker ξ φ) (server client : SecretKey)
    (table : RegionTable) (wait : Duration) (id : ConnectionId) (supply : σ)
    (first : Invoker.State ξ φ) (log : List Notice) (agreeing : crypto.Agreeing server client)
    (inverting : crypto.Inverting) :
    ∃ message session,
      KeyExchange.decode (Handshake.hello (.ofSecret crypto server)).encode = .ok message ∧
      (∀ state, (Handshake.join crypto (.ofSecret crypto client) message state).1 = .ok session) ∧
      (∀ file state, ∃ envelope next,
        Channel.wrap crypto session .execute file state = (.ok envelope, next)) ∧
      ∀ requests : List (RegisterFile × Bytes),
        (∀ request ∈ requests, request.1.token.toNat < table.size) →
        (∀ request ∈ requests, SealedRequest crypto session request.1 request.2) →
        ∀ turns : List Turn,
          let served := onLoopback crypto invoker server table wait
          let acts := script id (.ofSecret crypto client) requests
          let closing := List.replicate acts.length .client ++ List.replicate acts.length .server
          let finished := (served.play (turns ++ closing) acts (.onLoopback supply first log)).2
          finished.transport.inbound = [] ∧
            finished.connections.get? id = some (.established session) ∧
            ∃ replies, finished.transport.sent.get? id =
                some ((Handshake.hello (.ofSecret crypto server)).encode :: replies) ∧
              List.Forall₂ (OpensTo crypto session)
                (invoker.runs table (requests.map (·.1)) first).1 replies := by
  obtain ⟨session, derived⟩ := Handshake.exists_join crypto (.ofSecret crypto client)
    (.ofSecret crypto server) supply
  -- The server derives one session, so the client derives it in every state.
  have joined (state : σ) : (Handshake.join crypto (.ofSecret crypto client)
      (Handshake.hello (.ofSecret crypto server)) state).1 = .ok session := by
    rw [← Handshake.complete_eq_join agreeing supply state,
      Handshake.complete_eq_join agreeing supply supply, derived]
  refine ⟨_, session, KeyExchange.decode_encode _, joined,
    Channel.exists_wrap inverting session .execute, ?_⟩
  intro requests within sealed turns served acts closing finished
  have total : acts.length = requests.length + 2 := by simp [acts, script]
  -- At the start nothing is handled yet, and everything is left for the client to do.
  have start : Ready served id (.ofSecret crypto client) session requests first acts
      (.onLoopback supply first log) := {
    standing := .unknown _ rfl rfl
    remaining := List.suffix_rfl
    opened := fun fewer => by omega
    sound := rfl }
  have footing : Footing crypto server client table session requests :=
    ⟨agreeing, inverting, joined, within, sealed⟩
  -- Whatever the turns are, the closing ones bring the conversation to its end.
  have midway := start.play footing turns
  obtain ⟨ready, emptied⟩ := midway.close footing
    (Nat.le_of_eq total.symm)
  have whole : finished = (served.play closing (served.play turns acts
      (.onLoopback supply first log)).1 (served.play turns acts
      (.onLoopback supply first log)).2).2 := by
    simp only [finished, play_append]
  rw [whole]
  -- Nothing is to come any more, so every request has its answer.
  have standing := ready.standing
  rw [emptied] at standing
  exact ⟨emptied, standing.answered_of_nil⟩

/-- Over the standard primitives, two requests get their answers, each with what the region made of
it: one more than there was, and two more the second time. -/
theorem conversation_of_two_requests :
    let file : RegisterFile := { rax := 7 }
    let climbing : Invoker (Rehearsal UInt64) Unit :=
      ⟨Rehearsal.trampoline fun file count => ({ file with rax := file.rax + count }, count + 1),
        .fixed ⟨0x202⟩⟩
    ∃ session first second reply answer,
      SealedRequest .standard session file first ∧ SealedRequest .standard session file second ∧
      ((onLoopback .standard climbing ⟨.replicate 32 1⟩ ⟨[default]⟩ ⟨0⟩).play
        ([.client, .server, .client] ++ (List.replicate 4 .client ++ List.replicate 4 .server))
        (script ⟨1⟩ (.ofSecret .standard ⟨.replicate 32 2⟩) [(file, first), (file, second)])
        (.onLoopback default ⟨.start 1, ()⟩ [])).2.transport.sent.get? ⟨1⟩ =
          some [(Handshake.hello (.ofSecret .standard ⟨.replicate 32 1⟩)).encode, reply, answer] ∧
      OpensTo .standard session (.ok { rax := 8 }) reply ∧
      OpensTo .standard session (.ok { rax := 9 }) answer := by
  intro file climbing
  obtain ⟨message, session, _, _, seals, answers⟩ := conversation .standard climbing
    ⟨.replicate 32 1⟩ ⟨.replicate 32 2⟩ ⟨[default]⟩ ⟨0⟩ ⟨1⟩ default ⟨.start 1, ()⟩ []
    Primitives.standard_agreeing Primitives.standard_inverting
  -- The second request is sealed with the random bytes that the first one left.
  obtain ⟨envelope, next, wrapped⟩ := seals file default
  obtain ⟨other, last, enclosed⟩ := seals file next
  have first : SealedRequest .standard session file envelope.encode :=
    ⟨envelope, default, next, wrapped, rfl⟩
  have second : SealedRequest .standard session file other.encode :=
    ⟨other, next, last, enclosed, rfl⟩
  obtain ⟨_, _, replies, sent, answered⟩ := answers
    [(file, envelope.encode), (file, other.encode)] (by simp [file, RegionTable.size])
    (by simpa using ⟨first, second⟩) [.client, .server, .client]
  have ran : (climbing.runs ⟨[default]⟩ [file, file] ⟨.start 1, ()⟩).1 =
      [.ok { rax := 8 }, .ok { rax := 9 }] := by decide +kernel
  have answered : List.Forall₂ (OpensTo .standard session) _ replies := ran ▸ answered
  -- There are as many replies as requests, and each opens to what the region left.
  obtain ⟨reply, rest, opens, later, rfl⟩ := List.forall₂_cons_left_iff.mp answered
  obtain ⟨answer, none, opened, ended, rfl⟩ := List.forall₂_cons_left_iff.mp later
  cases List.forall₂_nil_left_iff.mp ended
  exact ⟨session, envelope.encode, other.encode, reply, answer, first, second, sent, opens, opened⟩

end Dispatcher

end CallGate
