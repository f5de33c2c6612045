import CallGate.Dispatcher
import CallGate.Proofs.Channel

/-! Everything that receiving one packet can come to, from the first check to the answer. -/

namespace CallGate

namespace Invoker

variable {ξ φ : Type}

/-- A token beyond the table runs nothing. -/
theorem invoke_of_outside {invoker : Invoker ξ φ} {table : RegionTable} {file : RegisterFile}
    {state : State ξ φ} (outside : table.regions[file.token.toNat]? = none) :
    invoker.invoke table file state = (.error (.invalidToken file.token table.size), state) := by
  -- The region is looked up by its token, and there is none.
  simp [invoke, RegionTable.lookup, outside]

/-- A token within the table runs its region, and there is an answer. -/
theorem invoke_of_found (invoker : Invoker ξ φ) {table : RegionTable} {file : RegisterFile}
    (state : State ξ φ) {region : Region}
    (found : table.regions[file.token.toNat]? = some region) :
    ∃ answer next, invoker.invoke table file state = (.ok answer, next) := by
  -- The region is looked up by its token, and running it cannot fail.
  simp [invoke, RegionTable.lookup, found]

end Invoker

namespace Dispatcher

variable {τ σ ξ φ : Type}

/-- A connection has a session exactly when one is entered for it. -/
theorem State.hasSession_eq_true_iff {state : State τ σ ξ φ} {id : ConnectionId} :
    state.hasSession id = true ↔
      ∃ session, state.connections.get? id = some (.established session) := by
  -- The entry is a session or it is not, which is what is asked in either form.
  unfold hasSession
  split
  · rename_i session known
    simp [known]
  · rename_i other
    simpa using other

/-- What a server holds once a connection has a session. -/
def State.establish (state : State τ σ ξ φ) (id : ConnectionId) (session : Session) (crypto : σ) :
    State τ σ ξ φ :=
  { state with
    crypto
    connections := state.connections.insert id (.established session) }.note
      (.sessionEstablished id)

/-- A packet on a connection with a session is a sealed request that its session opens. -/
structure Request (server : Dispatcher τ σ ξ φ) (id : ConnectionId) (packet : Bytes)
    (state : State τ σ ξ φ) (session : Session) (text : FixedBytes RegisterFile.size)
    (crypto : σ) : Prop where
  known : state.connections.get? id = some (.established session)
  opened : ∃ envelope, Envelope.decode packet = .ok envelope ∧ envelope.kind = .execute ∧
    server.crypto.decrypt session.key envelope.nonce envelope.associatedData envelope.ciphertext
      envelope.tag state.crypto = (.ok text, crypto)

/-- What a packet comes to: the outcome, and what the server holds before a refusal is acted on. -/
inductive Reception (server : Dispatcher τ σ ξ φ) (id : ConnectionId) (packet : Bytes)
    (state : State τ σ ξ φ) : Except RequestError Unit → State τ σ ξ φ → Prop
  /-- The packet asks for nothing that could be done where its connection stands. -/
  | refused (cause : RequestError)
    (noExchange : ∀ message, state.connections.get? id = some .awaiting →
      KeyExchange.decode packet = .ok message → message.version ≠ protocolVersion)
    (noRequest : ∀ session envelope, state.connections.get? id = some (.established session) →
      Envelope.decode packet = .ok envelope → envelope.kind ≠ .execute) :
    Reception server id packet state (.error cause) state
  /-- The client's key came, and a session follows from it. -/
  | established (message : KeyExchange) (session : Session) (crypto : σ)
    (waiting : state.connections.get? id = some .awaiting)
    (decoded : KeyExchange.decode packet = .ok message)
    (version : message.version = protocolVersion)
    (completed : Handshake.complete server.crypto server.keys message state.crypto =
      (.ok session, crypto)) :
    Reception server id packet state (.ok ()) (state.establish id session crypto)
  /-- The envelope belongs to another session or was altered. -/
  | unauthentic (session : Session) (envelope : Envelope) (error : CryptoError) (crypto : σ)
    (known : state.connections.get? id = some (.established session))
    (decoded : Envelope.decode packet = .ok envelope) (kind : envelope.kind = .execute)
    (closed : server.crypto.decrypt session.key envelope.nonce envelope.associatedData
      envelope.ciphertext envelope.tag state.crypto = (.error error, crypto)) :
    Reception server id packet state (.error (.ofChannel (.ofCrypto error))) { state with crypto }
  /-- No region stands where the token points. -/
  | misdirected (session : Session) (text : FixedBytes RegisterFile.size) (crypto : σ)
    (request : server.Request id packet state session text crypto)
    (outside : server.table.regions[(RegisterFile.ofBytes text).token.toNat]? = none) :
    Reception server id packet state
      (.error (.invalidToken (RegisterFile.ofBytes text).token server.table.size))
      { state with crypto }
  /-- The region ran, and its answer could not be sealed. -/
  | unsealed (session : Session) (text : FixedBytes RegisterFile.size) (opening sealing : σ)
    (region : Region) (answer : RegisterFile) (invoker : Invoker.State ξ φ) (error : ChannelError)
    (request : server.Request id packet state session text opening)
    (found : server.table.regions[(RegisterFile.ofBytes text).token.toNat]? = some region)
    (ran : server.invoker.invoke server.table (.ofBytes text) state.invoker = (.ok answer, invoker))
    (wrapped : Channel.wrap server.crypto session .stateTransfer answer opening =
      (.error error, sealing)) :
    Reception server id packet state (.error (.ofChannel error))
      { state with crypto := sealing, invoker }
  /-- The region ran, and its answer could not be sent. -/
  | unsent (session : Session) (text : FixedBytes RegisterFile.size) (opening sealing : σ)
    (region : Region) (answer : RegisterFile) (invoker : Invoker.State ξ φ) (reply : Envelope)
    (cause : TransportError) (transport : τ)
    (request : server.Request id packet state session text opening)
    (found : server.table.regions[(RegisterFile.ofBytes text).token.toNat]? = some region)
    (ran : server.invoker.invoke server.table (.ofBytes text) state.invoker = (.ok answer, invoker))
    (wrapped : Channel.wrap server.crypto session .stateTransfer answer opening =
      (.ok reply, sealing))
    (sent : server.transport.send id reply.encode state.transport = (.error cause, transport)) :
    Reception server id packet state (.error (.transport cause))
      { state with transport, crypto := sealing, invoker }
  /-- The region ran, and its answer is on the way. -/
  | served (session : Session) (text : FixedBytes RegisterFile.size) (opening sealing : σ)
    (region : Region) (answer : RegisterFile) (invoker : Invoker.State ξ φ) (reply : Envelope)
    (transport : τ)
    (request : server.Request id packet state session text opening)
    (found : server.table.regions[(RegisterFile.ofBytes text).token.toNat]? = some region)
    (ran : server.invoker.invoke server.table (.ofBytes text) state.invoker = (.ok answer, invoker))
    (wrapped : Channel.wrap server.crypto session .stateTransfer answer opening =
      (.ok reply, sealing))
    (sent : server.transport.send id reply.encode state.transport = (.ok (), transport)) :
    Reception server id packet state (.ok ()) { state with transport, crypto := sealing, invoker }

namespace Reception

variable {server : Dispatcher τ σ ξ φ} {id : ConnectionId} {packet : Bytes} {state : State τ σ ξ φ}

/-- A packet that opens with no kind a client may send is refused where it stands. -/
theorem of_peek {cause : RequestError} (exchange : PacketKind.peek packet ≠ .ok .keyExchange)
    (execution : PacketKind.peek packet ≠ .ok .execute) :
    server.Reception id packet state (.error cause) state := by
  -- Whatever is read as one of the two packets opens like it, and this packet opens like neither.
  refine .refused cause ?_ ?_
  · intro message _ decoded
    rw [KeyExchange.eq_encode_of_decode decoded, KeyExchange.peek_encode] at exchange
    exact absurd rfl exchange
  · rintro session envelope _ decoded kind
    rw [(Envelope.eq_encode_of_decode decoded).1, Envelope.peek_encode, kind] at execution
    exact absurd rfl execution

/-- What a packet that opens like a key exchange comes to. -/
theorem of_establish (peeked : PacketKind.peek packet = .ok .keyExchange) :
    server.Reception id packet state (server.establish id packet state).1
      (server.establish id packet state).2 := by
  -- An envelope for a request would have opened like one.
  have noRequest : ∀ session envelope,
      state.connections.get? id = some (.established session) →
      Envelope.decode packet = .ok envelope → envelope.kind ≠ .execute := by
    rintro session envelope _ decoded kind
    rw [(Envelope.eq_encode_of_decode decoded).1, Envelope.peek_encode, kind] at peeked
    cases peeked
  unfold establish
  -- Only a connection that waits for its client's key looks at the message at all.
  cases known : state.connections.get? id with
  | none => exact .refused _ (by simp [known]) noRequest
  | some phase =>
    cases phase with
    | established session => exact .refused _ (by simp [known]) noRequest
    | awaiting =>
      cases decoded : KeyExchange.decode packet with
      | error error => exact .refused _ (by simp [decoded]) noRequest
      | ok message =>
        by_cases version : message.version = protocolVersion
        · cases completed : Handshake.complete server.crypto server.keys message state.crypto with
          | mk outcome crypto =>
            cases outcome with
            | error error => simp [Handshake.complete, Handshake.checkVersion, version] at completed
            | ok session =>
              simp only [completed]
              exact .established message session crypto known decoded version completed
        · -- Nothing was computed, so the primitives are as they were.
          simp only [Handshake.complete, Handshake.checkVersion, version, if_false]
          refine .refused _ (fun other _ same => ?_) noRequest
          cases decoded.symm.trans same
          exact version

/-- What a request that its session opens comes to. -/
theorem of_request {session : Session} {text : FixedBytes RegisterFile.size} {crypto : σ}
    (request : server.Request id packet state session text crypto) :
    server.Reception id packet state (server.execute id packet state).1
      (server.execute id packet state).2 := by
  obtain ⟨envelope, decoded, _, opened⟩ := request.opened
  have unwrapped := Channel.unwrap_of_opened decoded opened
  -- The packet was opened, so its token decides whether anything runs.
  cases found : server.table.regions[(RegisterFile.ofBytes text).token.toNat]? with
  | none =>
    simp only [execute, request.known, answer, unwrapped, Invoker.invoke_of_outside found]
    exact .misdirected session text crypto request found
  | some region =>
    -- From here on the region has run, and only sealing and sending can still fail.
    obtain ⟨result, invoker, ran⟩ := server.invoker.invoke_of_found state.invoker found
    cases wrapped : Channel.wrap server.crypto session .stateTransfer result crypto with
    | mk outcome sealing =>
      cases outcome with
      | error error =>
        simp only [execute, request.known, answer, unwrapped, ran, wrapped]
        exact .unsealed session text crypto sealing region result invoker error request found ran
          wrapped
      | ok reply =>
        cases sent : server.transport.send id reply.encode state.transport with
        | mk outcome transport =>
          simp only [execute, request.known, answer, unwrapped, ran, wrapped, sent]
          cases outcome with
          | error cause =>
            exact .unsent session text crypto sealing region result invoker reply cause transport
              request found ran wrapped sent
          | ok _ =>
            exact .served session text crypto sealing region result invoker reply transport request
              found ran wrapped sent

/-- What a packet that opens like a request comes to. -/
theorem of_execute (peeked : PacketKind.peek packet = .ok .execute) :
    server.Reception id packet state (server.execute id packet state).1
      (server.execute id packet state).2 := by
  -- A key exchange would have opened like one.
  have noExchange : ∀ message, state.connections.get? id = some .awaiting →
      KeyExchange.decode packet = .ok message → message.version ≠ protocolVersion := by
    rintro message _ decoded
    rw [KeyExchange.eq_encode_of_decode decoded, KeyExchange.peek_encode] at peeked
    cases peeked
  -- Without a session there is no key to open the packet with.
  cases known : state.connections.get? id with
  | none =>
    simp only [execute, known]
    exact .refused _ noExchange (by simp [known])
  | some phase =>
    cases phase with
    | awaiting =>
      simp only [execute, known]
      exact .refused _ noExchange (by simp [known])
    | established session =>
      cases decoded : Envelope.decode packet with
      | error error =>
        simp only [execute, known, answer, Channel.unwrap_of_malformed decoded]
        exact .refused _ noExchange (by simp [decoded])
      | ok envelope =>
        -- What the packet opens with is the kind of its envelope.
        have kind : envelope.kind = .execute := by
          rw [(Envelope.eq_encode_of_decode decoded).1, Envelope.peek_encode] at peeked
          exact Except.ok.inj peeked
        -- The primitives have moved on even if they refuse, and that is all that has changed
        -- then.
        cases opening : server.crypto.decrypt session.key envelope.nonce envelope.associatedData
            envelope.ciphertext envelope.tag state.crypto with
        | mk outcome crypto =>
          cases outcome with
          | error error =>
            simp only [execute, known, answer, Channel.unwrap_of_refused decoded opening]
            exact .unauthentic session envelope error crypto known decoded kind opening
          | ok text =>
            exact of_request ⟨known, envelope, decoded, kind, opening⟩

end Reception

/-- Receiving a packet comes to one of the things it can come to. -/
theorem receive_reception (server : Dispatcher τ σ ξ φ) (id : ConnectionId) (packet : Bytes)
    (state : State τ σ ξ φ) :
    server.Reception id packet state (server.receive id packet state).1
      (server.receive id packet state).2 := by
  unfold receive
  -- The first four bytes choose the path, and everything but the two kinds of a client ends here.
  cases peeked : PacketKind.peek packet with
  | error error => exact .of_peek (by simp [peeked]) (by simp [peeked])
  | ok kind =>
    cases kind with
    | keyExchange => exact .of_establish peeked
    | execute => exact .of_execute peeked
    | stateTransfer => exact .of_peek (by simp [peeked]) (by simp [peeked])

/-- A packet that is refused ends its connection. -/
theorem handle_of_refused {server : Dispatcher τ σ ξ φ} {id : ConnectionId} {packet : Bytes}
    {state next : State τ σ ξ φ} {cause : RequestError}
    (refused : server.receive id packet state = (.error cause, next)) :
    server.handle (.received id packet) state = server.reject id cause next := by
  -- A refusal is acted on by rejecting.
  simp [handle, refused]

/-- What a packet that is taken up leaves is what receiving it leaves. -/
theorem handle_of_taken {server : Dispatcher τ σ ξ φ} {id : ConnectionId} {packet : Bytes}
    {state next : State τ σ ξ φ} (taken : server.receive id packet state = (.ok (), next)) :
    server.handle (.received id packet) state = next := by
  -- There is nothing to do about a packet that was taken up.
  simp [handle, taken]

/-- Receiving a packet changes where its own connection stands and no other. -/
theorem Reception.get?_of_ne {server : Dispatcher τ σ ξ φ} {id other : ConnectionId}
    {packet : Bytes} {state next : State τ σ ξ φ} {outcome : Except RequestError Unit}
    (reception : server.Reception id packet state outcome next) (differs : id ≠ other) :
    next.connections.get? other = state.connections.get? other := by
  -- Of all outcomes, only a new session is entered, and it is entered for its own connection.
  cases reception with
  | established message session crypto =>
    show (state.connections.insert id _).get? other = _
    rw [Connections.get?_insert, if_neg differs]
  | _ => rfl

/-- An event changes where its own connection stands and no other. -/
theorem get?_handle_of_ne (server : Dispatcher τ σ ξ φ) {event : Event} {other : ConnectionId}
    (state : State τ σ ξ φ) (differs : event.connection ≠ other) :
    (server.handle event state).connections.get? other = state.connections.get? other := by
  -- Every entry that is put in or taken out while handling is that of the event's connection.
  cases event with
  | connected id =>
    cases sent : server.transport.send id (Handshake.hello server.keys).encode state.transport with
    | mk outcome transport =>
      cases outcome with
      | error cause => simp [handle, welcome, sent, State.note]
      | ok _ =>
        -- The new entry is that of the client who is greeted, which is another one.
        have differs : id ≠ other := differs
        simp [handle, welcome, sent, State.note, Connections.get?_insert, differs]
  | received id packet =>
    have differs : id ≠ other := differs
    have reception := server.receive_reception id packet state
    cases received : server.receive id packet state with
    | mk outcome next =>
      rw [received] at reception
      have kept := reception.get?_of_ne differs
      cases outcome with
      | ok _ => rw [handle_of_taken received, kept]
      | error cause =>
        -- A refusal takes out the entry of its own connection on top.
        rw [handle_of_refused received]
        simp [reject, State.note, Connections.get?_erase, differs, kept]
  | disconnected id =>
    have differs : id ≠ other := differs
    by_cases known : state.connections.contains id <;>
      simp [handle, State.forget, State.note, known, Connections.get?_erase, differs]
  | timedOut id =>
    have differs : id ≠ other := differs
    by_cases known : state.connections.contains id <;>
      simp [handle, State.forget, State.note, known, Connections.get?_erase, differs]

/-- A connection whose packet is refused is forgotten. -/
theorem get?_handle_of_refused {server : Dispatcher τ σ ξ φ} {id : ConnectionId} {packet : Bytes}
    {state : State τ σ ξ φ} {cause : RequestError}
    (refused : (server.receive id packet state).1 = .error cause) :
    (server.handle (.received id packet) state).connections.get? id = none := by
  -- What was refused is rejected, and rejecting takes the entry out.
  have received : server.receive id packet state =
      (.error cause, (server.receive id packet state).2) := by rw [← refused]
  rw [handle_of_refused received]
  simp [reject, State.note, Connections.get?_erase]

/-- A connection that has gone has no entry. -/
theorem get?_forget (state : State τ σ ξ φ) (id : ConnectionId) (notice : Notice) :
    (state.forget id notice).connections.get? id = none := by
  unfold State.forget
  -- Either the entry is taken out, or there was none before.
  split
  · simp [State.note, Connections.get?_erase]
  · rename_i unknown
    simpa [Connections.contains] using unknown

/-- A connection without an entry stays without one until it is greeted. -/
theorem get?_handle_of_unknown {server : Dispatcher τ σ ξ φ} {event : Event} {id : ConnectionId}
    {state : State τ σ ξ φ} (unknown : state.connections.get? id = none)
    (ungreeted : event ≠ .connected id) :
    (server.handle event state).connections.get? id = none := by
  -- Events on other connections leave the entry alone, so only the connection's own events
  -- matter.
  by_cases own : event.connection = id
  · cases event with
    | connected other => exact absurd (congrArg Event.connected own) ungreeted
    | received other packet =>
      have same : id = other := own.symm
      subst same
      have reception := server.receive_reception id packet state
      cases received : server.receive id packet state with
      | mk outcome next =>
        rw [received] at reception
        cases outcome with
        | error cause => exact get?_handle_of_refused (by rw [received])
        | ok _ =>
          -- Only a connection that stands somewhere has a packet taken up.
          cases reception with
          | established message session crypto waiting => simp [unknown] at waiting
          | served session _ _ _ _ _ _ _ _ request =>
            have known := request.known
            simp [unknown] at known
    | disconnected other =>
      have same : id = other := own.symm
      subst same
      simp [handle, State.forget, Connections.contains, unknown]
    | timedOut other =>
      have same : id = other := own.symm
      subst same
      simp [handle, State.forget, Connections.contains, unknown]
  · rw [get?_handle_of_ne server state own, unknown]

end Dispatcher

end CallGate
