import CallGate.Proofs.Dispatcher.Cost
import CallGate.Proofs.Invocation
import CallGate.Proofs.Packet.Exactness

/-! What a packet comes to: of everything that speaks against it, the first thing counts, and an
alarm is raised for nothing but a tag that is not right. -/

namespace CallGate

/-- A packet that shows a kind has the four bytes that show it. -/
theorem PacketKind.size_le_of_peek {packet : Bytes} {kind : PacketKind}
    (peeked : peek packet = .ok kind) : size ≤ packet.length := by
  -- The first bytes are all there, since they are equal to four bytes.
  have four : (packet.take size).length = size := by
    rw [peek_eq_ok_iff.mp peeked, length_toBytes]
  rw [List.length_take] at four
  omega

/-- A packet of a kind that the layout carries is refused for nothing but its length. -/
theorem PacketShape.Exact.error_of_peek {α : Type} {shape : PacketShape} {size : Nat}
    {message : α → PacketKind} {encode : α → Bytes} {decode : Bytes → Except PacketError α}
    (exact : shape.Exact size message encode decode) {packet : Bytes} {kind : PacketKind}
    (peeked : PacketKind.peek packet = .ok kind) (carried : shape.Carries kind)
    {error : PacketError} (refused : decode packet = .error error) :
    error = .malformed size packet.length := by
  -- The three ways to be refused are those of a layout that is exact.
  have enough := PacketKind.size_le_of_peek peeked
  cases (exact.refused packet error).mp refused with
  | length other => rfl
  | number fitting above =>
    -- The number is that of a kind, and no kind has one above two.
    rw [(PacketKind.peek_eq_ok_iff_number enough).mp peeked] at above
    cases kind <;> exact absurd above (by decide)
  | kind fitting named other =>
    -- Both kinds are read from the same bytes, so the one that is refused is the one carried.
    have found := (PacketKind.peek_eq_ok_iff_number enough).mpr named
    cases peeked.symm.trans found
    exact absurd carried other

/-- Primitives that give each refusal its own cause: nothing but a tag keeps a text from being
decrypted, and no tag keeps one from being encrypted. -/
structure Primitives.Candid {σ : Type} (crypto : Primitives σ) : Prop where
  encrypts {size : Nat} {key : SessionKey} {nonce : Nonce} {associated : Bytes}
    {text : FixedBytes size} {state next : σ} {error : CryptoError}
    (refused : crypto.encrypt key nonce associated text state = (.error error, next)) :
    error = .encryption
  decrypts {size : Nat} {key : SessionKey} {nonce : Nonce} {associated : Bytes}
    {ciphertext : FixedBytes size} {tag : Tag} {state : σ} {error : CryptoError}
    (refused : (crypto.decrypt key nonce associated ciphertext tag state).1 = .error error) :
    error = .authentication

/-- The standard primitives encrypt everything, and refuse to decrypt for a tag only. -/
theorem Primitives.standard_candid : standard.Candid where
  -- Its encryption never refuses.
  encrypts refused := by cases refused
  decrypts {size key nonce associated ciphertext tag state error} refused := by
    -- Its decryption compares the tag, and refuses if that differs.
    simp only [standard] at refused
    split at refused <;> cases refused
    rfl

/-- Candid primitives keep a register file from being sealed for one reason only. -/
theorem Channel.error_of_wrap_of_candid {σ : Type} {crypto : Primitives σ} (candid : crypto.Candid)
    {state next : σ} {session : Session} {kind : PacketKind} {file : RegisterFile}
    {error : ChannelError} (wrapped : wrap crypto session kind file state = (.error error, next)) :
    error = .encryption := by
  -- A nonce is drawn and then the text is encrypted.
  cases drawn : crypto.random nonceSize state with
  | mk nonce inner =>
    -- Drawing a nonce cannot fail, so it is the encryption that did.
    cases encrypted : crypto.encrypt session.key nonce kind.toBytes file.toBytes inner with
    | mk sealing last =>
      cases sealing with
      | error cause =>
        simp only [wrap, drawn, encrypted, Prod.mk.injEq, Except.error.injEq] at wrapped
        rw [← wrapped.1, candid.encrypts encrypted]
        rfl
      | ok block => simp [wrap, drawn, encrypted] at wrapped

namespace Dispatcher

variable {τ σ ξ φ : Type}

/-- What a packet with the number of a key exchange comes to, by the first of these that applies. -/
inductive ExchangeVerdict (id : ConnectionId) (packet : Bytes) (state : State τ σ ξ φ) :
    Except RequestError Unit → Prop
  | stranger (unknown : state.connections.get? id = none) :
    ExchangeVerdict id packet state (.error .handshakeRequired)
  /-- Whatever else is wrong with the packet, that it came again is told. -/
  | repeated (session : Session)
    (known : state.connections.get? id = some (.established session)) :
    ExchangeVerdict id packet state (.error .repeatedHandshake)
  | malformed (waiting : state.connections.get? id = some .awaiting)
    (other : packet.length ≠ 40) :
    ExchangeVerdict id packet state (.error (.malformed (.malformed 40 packet.length)))
  | foreign (version : UInt32) (waiting : state.connections.get? id = some .awaiting)
    (length : packet.length = 40) (shown : (packet.drop 4).take 4 = Bytes.ofUInt32 version)
    (other : version ≠ 1) :
    ExchangeVerdict id packet state (.error (.versionMismatch 1 version))
  | completed (waiting : state.connections.get? id = some .awaiting)
    (length : packet.length = 40) (shown : (packet.drop 4).take 4 = Bytes.ofUInt32 1) :
    ExchangeVerdict id packet state (.ok ())

/-- What the answer that a region left comes to: it is sealed first and sent then. -/
inductive AnswerVerdict (server : Dispatcher τ σ ξ φ) (id : ConnectionId) (session : Session)
    (answer : RegisterFile) (crypto : σ) (transport : τ) : Except RequestError Unit → Prop
  | unsealed (sealing : σ)
    (refused : Channel.wrap server.crypto session .stateTransfer answer crypto =
      (.error .encryption, sealing)) :
    AnswerVerdict server id session answer crypto transport (.error .encryption)
  /-- Primitives that blame a tag they were to make are believed. -/
  | disowned (sealing : σ)
    (refused : Channel.wrap server.crypto session .stateTransfer answer crypto =
      (.error .authentication, sealing)) :
    AnswerVerdict server id session answer crypto transport (.error .authentication)
  | unsent (sealing : σ) (reply : Envelope) (cause : TransportError)
    (wrapped : Channel.wrap server.crypto session .stateTransfer answer crypto =
      (.ok reply, sealing))
    (failed : (server.transport.send id reply.encode transport).1 = .error cause) :
    AnswerVerdict server id session answer crypto transport (.error (.transport cause))
  | sent (sealing : σ) (reply : Envelope)
    (wrapped : Channel.wrap server.crypto session .stateTransfer answer crypto =
      (.ok reply, sealing))
    (taken : (server.transport.send id reply.encode transport).1 = .ok ()) :
    AnswerVerdict server id session answer crypto transport (.ok ())

/-- What a packet with the number of a request comes to, by the first of these that applies. -/
inductive RequestVerdict (server : Dispatcher τ σ ξ φ) (id : ConnectionId) (packet : Bytes)
    (state : State τ σ ξ φ) : Except RequestError Unit → Prop
  | sessionless (without : state.hasSession id = false) :
    RequestVerdict server id packet state (.error .handshakeRequired)
  | malformed (session : Session)
    (known : state.connections.get? id = some (.established session))
    (other : packet.length ≠ 180) :
    RequestVerdict server id packet state (.error (.malformed (.malformed 180 packet.length)))
  | unauthentic (session : Session) (envelope : Envelope)
    (known : state.connections.get? id = some (.established session))
    (decoded : Envelope.decode packet = .ok envelope)
    (refused : (server.crypto.decrypt session.key envelope.nonce envelope.associatedData
      envelope.ciphertext envelope.tag state.crypto).1 = .error .authentication) :
    RequestVerdict server id packet state (.error .authentication)
  /-- Primitives that cannot open a packet for another reason than its tag are believed. -/
  | unopened (session : Session) (envelope : Envelope)
    (known : state.connections.get? id = some (.established session))
    (decoded : Envelope.decode packet = .ok envelope)
    (refused : (server.crypto.decrypt session.key envelope.nonce envelope.associatedData
      envelope.ciphertext envelope.tag state.crypto).1 = .error .encryption) :
    RequestVerdict server id packet state (.error .encryption)
  | misdirected (session : Session) (text : FixedBytes RegisterFile.size) (crypto : σ)
    (request : server.Request id packet state session text crypto)
    (outside : server.table.size ≤ (RegisterFile.ofBytes text).token.toNat) :
    RequestVerdict server id packet state
      (.error (.invalidToken (RegisterFile.ofBytes text).token server.table.size))
  | answered (session : Session) (text : FixedBytes RegisterFile.size) (crypto : σ)
    (answer : RegisterFile) {outcome : Except RequestError Unit}
    (request : server.Request id packet state session text crypto)
    (within : (RegisterFile.ofBytes text).token.toNat < server.table.size)
    (ran : (server.invoker.invoke server.table (.ofBytes text) state.invoker).1 = .ok answer)
    (verdict : server.AnswerVerdict id session answer crypto state.transport outcome) :
    RequestVerdict server id packet state outcome

/-- What a packet comes to, by its length and by the number it opens with. -/
inductive Verdict (server : Dispatcher τ σ ξ φ) (id : ConnectionId) (packet : Bytes)
    (state : State τ σ ξ φ) : Except RequestError Unit → Prop
  | short (length : packet.length < 4) :
    Verdict server id packet state (.error (.malformed (.malformed 4 packet.length)))
  | unknown (enough : 4 ≤ packet.length) (above : 2 < PacketKind.number packet) :
    Verdict server id packet state
      (.error (.unknownKind (UInt32.ofNat (PacketKind.number packet))))
  | transfer (enough : 4 ≤ packet.length) (two : PacketKind.number packet = 2) :
    Verdict server id packet state (.error (.unexpectedKind .stateTransfer))
  | exchange {outcome : Except RequestError Unit} (enough : 4 ≤ packet.length)
    (zero : PacketKind.number packet = 0) (verdict : ExchangeVerdict id packet state outcome) :
    Verdict server id packet state outcome
  | request {outcome : Except RequestError Unit} (enough : 4 ≤ packet.length)
    (one : PacketKind.number packet = 1)
    (verdict : server.RequestVerdict id packet state outcome) :
    Verdict server id packet state outcome

variable {server : Dispatcher τ σ ξ φ} {id : ConnectionId} {packet : Bytes}
  {state : State τ σ ξ φ} {outcome : Except RequestError Unit}

/-- The verdict on a key exchange is what comes of establishing a session from it. -/
theorem ExchangeVerdict.establish (verdict : ExchangeVerdict id packet state outcome)
    (peeked : PacketKind.peek packet = .ok .keyExchange) :
    (server.establish id packet state).1 = outcome := by
  have opening : packet.take 4 = [0, 0, 0, 0] := PacketKind.peek_eq_ok_iff.mp peeked
  -- The cases are the verdicts, in the order in which the conditions are tried.
  cases verdict with
  | stranger unknown => simp [Dispatcher.establish, unknown]
  | repeated session known => simp [Dispatcher.establish, known]
  | malformed waiting other =>
    have refused : KeyExchange.decode packet = .error (.malformed 40 packet.length) :=
      (KeyExchange.exact.refused packet _).mpr (.length other)
    simp [Dispatcher.establish, waiting, refused, RequestError.ofPacket]
  | foreign version waiting length shown other =>
    obtain ⟨message, decoded, rfl⟩ := KeyExchange.exists_decode_iff.mpr ⟨length, opening, shown⟩
    simp [Dispatcher.establish, waiting, decoded, Handshake.complete, Handshake.checkVersion,
      protocolVersion, other, RequestError.ofHandshake]
  | completed waiting length shown =>
    obtain ⟨message, decoded, version⟩ :=
      KeyExchange.exists_decode_iff.mpr ⟨length, opening, shown⟩
    simp [Dispatcher.establish, waiting, decoded, Handshake.complete, Handshake.checkVersion,
      protocolVersion, version]

/-- What comes of a request whose packet cannot be decrypted. -/
theorem execute_of_refused {session : Session} {envelope : Envelope} {error : CryptoError}
    (known : state.connections.get? id = some (.established session))
    (decoded : Envelope.decode packet = .ok envelope)
    (refused : (server.crypto.decrypt session.key envelope.nonce envelope.associatedData
      envelope.ciphertext envelope.tag state.crypto).1 = .error error) :
    (server.execute id packet state).1 = .error (.ofChannel (.ofCrypto error)) := by
  -- What decrypting left of the primitives is named, so that the run can be followed past it.
  cases decrypted : server.crypto.decrypt session.key envelope.nonce envelope.associatedData
      envelope.ciphertext envelope.tag state.crypto with
  | mk opened crypto =>
    rw [decrypted] at refused
    cases refused
    simp [execute, known, answer, Channel.unwrap_of_refused decoded decrypted]

/-- What comes of a request whose region has run: the verdict on the answer that it left. -/
theorem AnswerVerdict.execute {session : Session} {text : FixedBytes RegisterFile.size}
    {crypto : σ} {file : RegisterFile}
    (verdict : server.AnswerVerdict id session file crypto state.transport outcome)
    (request : server.Request id packet state session text crypto)
    (ran : (server.invoker.invoke server.table (.ofBytes text) state.invoker).1 = .ok file) :
    (server.execute id packet state).1 = outcome := by
  obtain ⟨envelope, decoded, _, opened⟩ := request.opened
  -- The session opens the packet, and the region has run.
  have unwrapped := Channel.unwrap_of_opened decoded opened
  cases invoked : server.invoker.invoke server.table (.ofBytes text) state.invoker with
  | mk left invoker =>
    rw [invoked] at ran
    cases ran
    -- The region has left its answer, so sealing and sending are all that is still to do.
    cases verdict with
    | unsealed sealing refused =>
      simp only [Dispatcher.execute, request.known, answer, unwrapped, invoked, refused]
      rfl
    | disowned sealing refused =>
      simp only [Dispatcher.execute, request.known, answer, unwrapped, invoked, refused]
      rfl
    | unsent sealing reply cause wrapped failed =>
      cases sent : server.transport.send id reply.encode state.transport with
      | mk taken transport =>
        rw [sent] at failed
        cases failed
        simp only [Dispatcher.execute, request.known, answer, unwrapped, invoked, wrapped, sent]
    | sent sealing reply wrapped accepted =>
      cases sent : server.transport.send id reply.encode state.transport with
      | mk taken transport =>
        rw [sent] at accepted
        cases accepted
        simp only [Dispatcher.execute, request.known, answer, unwrapped, invoked, wrapped, sent]

/-- The verdict on a request is what comes of executing it. -/
theorem RequestVerdict.execute (verdict : server.RequestVerdict id packet state outcome) :
    (server.execute id packet state).1 = outcome := by
  -- The cases are the verdicts, in the order in which opening, looking up and running are tried.
  cases verdict with
  | sessionless without =>
    -- Where the connection stands is looked up, and neither answer has a key in it.
    unfold State.hasSession at without
    unfold Dispatcher.execute
    split at without
    · cases without
    · rfl
  | malformed session known other =>
    have refused : Envelope.decode packet = .error (.malformed 180 packet.length) :=
      (Envelope.exact.refused packet _).mpr (.length other)
    simp [Dispatcher.execute, known, answer, Channel.unwrap_of_malformed refused,
      RequestError.ofChannel, RequestError.ofPacket]
  | unauthentic session envelope known decoded refused =>
    exact execute_of_refused known decoded refused
  | unopened session envelope known decoded refused =>
    exact execute_of_refused known decoded refused
  | misdirected session text crypto request outside =>
    obtain ⟨envelope, decoded, _, opened⟩ := request.opened
    have nothing : server.table.regions[(RegisterFile.ofBytes text).token.toNat]? = none :=
      List.getElem?_eq_none_iff.mpr outside
    simp only [Dispatcher.execute, request.known, answer, Channel.unwrap_of_opened decoded opened,
      Invoker.invoke_of_outside nothing]
    rfl
  | answered session text crypto file request within ran verdict =>
    exact verdict.execute request ran

/-- The verdict on a packet is what comes of receiving it. -/
theorem Verdict.receive (verdict : server.Verdict id packet state outcome) :
    (server.receive id packet state).1 = outcome := by
  -- The cases are those of the first four bytes: too few, no kind, and the three kinds.
  cases verdict with
  | short length =>
    have nothing : ¬ 4 ≤ packet.length := by omega
    simp [Dispatcher.receive, PacketKind.peek, Bytes.word32?, nothing, RequestError.ofPacket,
      PacketKind.size]
  | unknown enough above =>
    -- A number above two is none of a kind.
    rcases PacketKind.peek_cases enough with ⟨_, refused⟩ | ⟨kind, named, _⟩
    · simp only [Dispatcher.receive, refused]
      rfl
    · rw [named] at above
      cases kind <;> exact absurd above (by decide)
  | transfer enough two =>
    have peeked : PacketKind.peek packet = .ok .stateTransfer :=
      (PacketKind.peek_eq_ok_iff_number enough).mpr two
    simp only [Dispatcher.receive, peeked]
  | exchange enough zero verdict =>
    have peeked : PacketKind.peek packet = .ok .keyExchange :=
      (PacketKind.peek_eq_ok_iff_number enough).mpr zero
    simp only [Dispatcher.receive, peeked]
    exact verdict.establish peeked
  | request enough one verdict =>
    have peeked : PacketKind.peek packet = .ok .execute :=
      (PacketKind.peek_eq_ok_iff_number enough).mpr one
    simp only [Dispatcher.receive, peeked]
    exact verdict.execute

/-- There is a verdict on every key exchange. -/
theorem exists_exchangeVerdict (id : ConnectionId) (packet : Bytes) (state : State τ σ ξ φ) :
    ∃ outcome, ExchangeVerdict id packet state outcome := by
  -- The conditions are asked in the order in which establishing asks them.
  cases known : state.connections.get? id with
  | none => exact ⟨_, .stranger known⟩
  | some phase =>
    cases phase with
    | established session => exact ⟨_, .repeated session known⟩
    | awaiting =>
      by_cases length : packet.length = 40
      · -- Four of the forty bytes are the version, whatever they are.
        have four : ((packet.drop 4).take 4).length = 4 := by simp [length]
        have shown := (Bytes.ofUInt32_ofNat_value four).symm
        by_cases version : UInt32.ofNat (Bytes.value ((packet.drop 4).take 4)) = 1
        · rw [version] at shown
          exact ⟨_, .completed known length shown⟩
        · exact ⟨_, .foreign _ known length shown version⟩
      · exact ⟨_, .malformed known length⟩

/-- There is a verdict on every answer. -/
theorem exists_answerVerdict (server : Dispatcher τ σ ξ φ) (id : ConnectionId) (session : Session)
    (answer : RegisterFile) (crypto : σ) (transport : τ) :
    ∃ outcome, server.AnswerVerdict id session answer crypto transport outcome := by
  -- Either the answer is sealed and sent, or one of the two fails.
  cases wrapped : Channel.wrap server.crypto session .stateTransfer answer crypto with
  | mk made sealing =>
    cases made with
    | error error =>
      -- Sealing fails if encrypting does, and then for the same reason.
      obtain ⟨cause, rfl⟩ := Channel.error_of_wrap wrapped
      cases cause with
      | authentication => exact ⟨_, .disowned sealing wrapped⟩
      | encryption => exact ⟨_, .unsealed sealing wrapped⟩
    | ok reply =>
      cases sent : (server.transport.send id reply.encode transport).1 with
      | error cause => exact ⟨_, .unsent sealing reply cause wrapped sent⟩
      | ok _ => exact ⟨_, .sent sealing reply wrapped sent⟩

/-- There is a verdict on every request. -/
theorem exists_requestVerdict (server : Dispatcher τ σ ξ φ) (id : ConnectionId) {packet : Bytes}
    (state : State τ σ ξ φ) (peeked : PacketKind.peek packet = .ok .execute) :
    ∃ outcome, server.RequestVerdict id packet state outcome := by
  -- The conditions are asked in the order in which executing asks them.
  cases without : state.hasSession id with
  | false => exact ⟨_, .sessionless without⟩
  | true =>
    obtain ⟨session, known⟩ := State.hasSession_eq_true_iff.mp without
    by_cases length : packet.length = 180
    · obtain ⟨envelope, decoded, kind⟩ := (Envelope.exists_decode_iff rfl).mpr
        ⟨length, PacketKind.peek_eq_ok_iff.mp peeked⟩
      cases opening : server.crypto.decrypt session.key envelope.nonce envelope.associatedData
          envelope.ciphertext envelope.tag state.crypto with
      | mk opened crypto =>
        cases opened with
        | error error =>
          have refused := congrArg Prod.fst opening
          cases error with
          | authentication => exact ⟨_, .unauthentic session envelope known decoded refused⟩
          | encryption => exact ⟨_, .unopened session envelope known decoded refused⟩
        | ok text =>
          have request : server.Request id packet state session text crypto :=
            ⟨known, envelope, decoded, kind, opening⟩
          -- The token decides whether there is an answer to pass a verdict on.
          rcases Nat.lt_or_ge (RegisterFile.ofBytes text).token.toNat server.table.size with
            within | outside
          · obtain ⟨answer, ran⟩ := (server.invoker.exists_invoke_iff server.table
              (.ofBytes text) state.invoker).mpr within
            obtain ⟨outcome, verdict⟩ :=
              server.exists_answerVerdict id session answer crypto state.transport
            exact ⟨outcome, .answered session text crypto answer request within ran verdict⟩
          · exact ⟨_, .misdirected session text crypto request outside⟩
    · exact ⟨_, .malformed session known length⟩

/-- There is a verdict on every packet. -/
theorem exists_verdict (server : Dispatcher τ σ ξ φ) (id : ConnectionId) (packet : Bytes)
    (state : State τ σ ξ φ) : ∃ outcome, server.Verdict id packet state outcome := by
  -- The length comes first, and then the number that the packet opens with.
  rcases Nat.lt_or_ge packet.length 4 with length | enough
  · exact ⟨_, .short length⟩
  · rcases PacketKind.peek_cases enough with ⟨above, _⟩ | ⟨kind, named, peeked⟩
    · exact ⟨_, .unknown enough above⟩
    · cases kind with
      | keyExchange =>
        obtain ⟨outcome, verdict⟩ := exists_exchangeVerdict id packet state
        exact ⟨outcome, .exchange enough named verdict⟩
      | execute =>
        obtain ⟨outcome, verdict⟩ := server.exists_requestVerdict id state peeked
        exact ⟨outcome, .request enough named verdict⟩
      | stateTransfer => exact ⟨_, .transfer enough named⟩

/-- A packet comes to its verdict and to nothing else. -/
theorem receive_eq_iff : (server.receive id packet state).1 = outcome ↔
    server.Verdict id packet state outcome := by
  constructor
  · intro came
    -- There is a verdict, and receiving the packet can only come to that one.
    obtain ⟨passed, verdict⟩ := server.exists_verdict id packet state
    rw [← came, verdict.receive]
    exact verdict
  · exact Verdict.receive

/-- What is logged of a packet, by what it comes to. -/
inductive Logged (id : ConnectionId) : Except RequestError Unit → List Notice → Prop
  | answered : Logged id (.ok ()) []
  | established : Logged id (.ok ()) [.sessionEstablished id]
  | alarmed : Logged id (.error .authentication) [.tampering id]
  | dropped (cause : RequestError) (other : cause ≠ .authentication) :
    Logged id (.error cause) [.dropped id cause]

/-- Receiving a packet logs nothing but a session, and a refusal is logged where it is acted on. -/
theorem Reception.logged {next : State τ σ ξ φ}
    (reception : server.Reception id packet state outcome next) :
    (∃ cause, outcome = .error cause ∧ next.log = state.log) ∨
      ∃ news, outcome = .ok () ∧ next.log = state.log ++ news ∧ Logged id (.ok ()) news := by
  -- The cases are what a packet can come to, and only a new session is noted.
  cases reception with
  | established message session crypto => exact .inr ⟨_, rfl, rfl, .established⟩
  | served => exact .inr ⟨[], rfl, (List.append_nil _).symm, .answered⟩
  | refused cause => exact .inl ⟨cause, rfl, rfl⟩
  | unauthentic => exact .inl ⟨_, rfl, rfl⟩
  | misdirected => exact .inl ⟨_, rfl, rfl⟩
  | unsealed => exact .inl ⟨_, rfl, rfl⟩
  | unsent => exact .inl ⟨_, rfl, rfl⟩

/-- Every refusal but the one is logged with its cause. -/
theorem dropNotice_of_ne {cause : RequestError} (other : cause ≠ .authentication) :
    dropNotice id cause = .dropped id cause := by
  -- The one cause that is told otherwise is not this one.
  unfold dropNotice
  split
  · exact absurd rfl other
  · rfl

/-- The log of a packet is that of what it comes to. -/
theorem exists_logged (server : Dispatcher τ σ ξ φ) (id : ConnectionId) (packet : Bytes)
    (state : State τ σ ξ φ) :
    ∃ news, (server.handle (.received id packet) state).log = state.log ++ news ∧
      Logged id (server.receive id packet state).1 news := by
  -- The log is that of receiving the packet, with a line more for a refusal.
  have reception := server.receive_reception id packet state
  cases received : server.receive id packet state with
  | mk outcome next =>
    rw [received] at reception
    rcases reception.logged with ⟨cause, rfl, kept⟩ | ⟨news, rfl, added, logged⟩
    · -- The connection is dropped, and why it is dropped decides what is told of it.
      refine ⟨[dropNotice id cause], ?_, ?_⟩
      · have kept : next.log = state.log := kept
        rw [handle_of_refused received]
        simp [reject, State.note, kept]
      · by_cases authentication : cause = .authentication
        · subst authentication
          exact .alarmed
        · rw [dropNotice_of_ne authentication]
          exact .dropped cause authentication
    · exact ⟨news, by rw [handle_of_taken received, added], logged⟩

/-- An alarm is raised for a packet exactly when it is refused as not authentic. -/
theorem Logged.alarm_iff {news : List Notice} (logged : Logged id outcome news) :
    (∃ notice ∈ news, notice.level = .error) ↔ outcome = .error .authentication := by
  -- Only one kind of notice is an error, and only one refusal leads to it.
  cases logged with
  | answered => simp
  | established => simp [Notice.level]
  | alarmed => simp [Notice.level]
  | dropped cause other => simp [Notice.level, other]

/-- What an alarm says. -/
theorem Logged.alarm_message {news : List Notice} (logged : Logged id outcome news) :
    ∀ notice ∈ news, notice.level = .error → notice.message =
      "Bad MAC on packet, possible tampering or wrong key; dropping connection" := by
  -- The alarm is the only notice of its level, and its text is fixed.
  cases logged with
  | answered => simp
  | established => simp [Notice.level]
  | alarmed => simp [Notice.message]
  | dropped cause other => simp [Notice.level]

/-- A warning is given for a packet exactly when it is refused for anything else. -/
theorem Logged.warning_iff {news : List Notice} (logged : Logged id outcome news) :
    (∃ notice ∈ news, notice.level = .warn) ↔
      ∃ cause, cause ≠ .authentication ∧ outcome = .error cause := by
  -- A warning stands in the log for a dropped connection and for nothing else.
  cases logged with
  | answered => simp
  | established => simp [Notice.level]
  | alarmed => simp [Notice.level]
  | dropped cause other => simp [Notice.level, other]

/-- The packet is a request on a session, of the right length, and it cannot be decrypted. -/
def Forged (server : Dispatcher τ σ ξ φ) (id : ConnectionId) (packet : Bytes)
    (state : State τ σ ξ φ) : Prop :=
  PacketKind.peek packet = .ok .execute ∧ ∃ session envelope cause,
    state.connections.get? id = some (.established session) ∧
      Envelope.decode packet = .ok envelope ∧
      (server.crypto.decrypt session.key envelope.nonce envelope.associatedData
        envelope.ciphertext envelope.tag state.crypto).1 = .error cause

/-- With candid primitives, a packet is refused as not authentic exactly if it cannot be decrypted.
The two verdicts that contradict the primitives' promise do not occur. -/
theorem verdict_authentication_iff (candid : server.crypto.Candid) :
    server.Verdict id packet state (.error .authentication) ↔ server.Forged id packet state := by
  constructor
  · intro verdict
    -- A key exchange is never refused for a tag.
    cases verdict with
    | exchange _ _ verdict => cases verdict
    | request enough one verdict =>
      refine ⟨(PacketKind.peek_eq_ok_iff_number enough).mpr one, ?_⟩
      cases verdict with
      | unauthentic session envelope known decoded refused =>
        exact ⟨session, envelope, _, known, decoded, refused⟩
      | answered session text crypto answer request within ran verdict =>
        -- Sealing the answer was not refused for a tag.
        cases verdict with
        | disowned sealing refused => cases Channel.error_of_wrap_of_candid candid refused
  · intro forged
    obtain ⟨peeked, session, envelope, cause, known, decoded, refused⟩ := forged
    have enough := PacketKind.size_le_of_peek peeked
    -- Whatever the primitives say, they mean the tag.
    cases candid.decrypts refused
    exact .request enough ((PacketKind.peek_eq_ok_iff_number enough).mp peeked)
      (.unauthentic session envelope known decoded refused)

/-- With candid primitives, nothing but an answer that cannot be sealed is refused as such. -/
theorem verdict_encryption_iff (candid : server.crypto.Candid) :
    server.Verdict id packet state (.error .encryption) ↔
      PacketKind.peek packet = .ok .execute ∧ ∃ session text crypto answer sealing,
        server.Request id packet state session text crypto ∧
        (server.invoker.invoke server.table (.ofBytes text) state.invoker).1 = .ok answer ∧
        Channel.wrap server.crypto session .stateTransfer answer crypto =
          (.error .encryption, sealing) := by
  constructor
  · intro verdict
    -- Opening is never refused as an encryption, and sealing is never refused for a tag.
    cases verdict with
    | exchange _ _ verdict => cases verdict
    | request enough one verdict =>
      refine ⟨(PacketKind.peek_eq_ok_iff_number enough).mpr one, ?_⟩
      cases verdict with
      | unopened session envelope known decoded refused => cases candid.decrypts refused
      | answered session text crypto answer request within ran verdict =>
        cases verdict with
        | unsealed sealing refused =>
          exact ⟨session, text, crypto, answer, sealing, request, ran, refused⟩
  · intro failed
    obtain ⟨peeked, session, text, crypto, answer, sealing, request, ran, refused⟩ := failed
    have enough := PacketKind.size_le_of_peek peeked
    -- The region ran, so there is one.
    have within := (server.invoker.exists_invoke_iff server.table (.ofBytes text)
      state.invoker).mp ⟨answer, ran⟩
    exact .request enough ((PacketKind.peek_eq_ok_iff_number enough).mp peeked)
      (.answered session text crypto answer request within ran (.unsealed sealing refused))

/-- With candid primitives, an alarm is raised exactly for a packet that cannot be decrypted. -/
theorem alarm_iff_forged (server : Dispatcher τ σ ξ φ) (candid : server.crypto.Candid)
    (id : ConnectionId) (packet : Bytes) (state : State τ σ ξ φ) :
    ∃ news, (server.handle (.received id packet) state).log = state.log ++ news ∧
      ((∃ notice ∈ news, notice.level = .error) ↔ server.Forged id packet state) := by
  obtain ⟨news, added, logged⟩ := server.exists_logged id packet state
  refine ⟨news, added, ?_⟩
  -- The alarm stands for a verdict, and this verdict for a packet that is not decrypted.
  rw [logged.alarm_iff, receive_eq_iff, verdict_authentication_iff candid]

/-- Everything about how a packet is judged where its connection stands. -/
structure Classified (server : Dispatcher τ σ ξ φ) (id : ConnectionId) (packet : Bytes)
    (state : State τ σ ξ φ) : Prop where
  /-- The packet comes to the one verdict on it. -/
  verdict (outcome : Except RequestError Unit) :
    (server.receive id packet state).1 = outcome ↔ server.Verdict id packet state outcome
  /-- Behind the number of a key exchange, only the length can still be wrong with the layout. -/
  exchange (error : PacketError) (peeked : PacketKind.peek packet = .ok .keyExchange)
    (refused : KeyExchange.decode packet = .error error) :
    error = .malformed 40 packet.length
  /-- Behind the number of a request, too. -/
  request (error : PacketError) (peeked : PacketKind.peek packet = .ok .execute)
    (refused : Envelope.decode packet = .error error) :
    error = .malformed 180 packet.length
  /-- An alarm is raised for the one refusal, and a warning is given for all others. -/
  logged : ∃ news, (server.handle (.received id packet) state).log = state.log ++ news ∧
    Logged id (server.receive id packet state).1 news ∧
    ((∃ notice ∈ news, notice.level = .error) ↔
      server.Verdict id packet state (.error .authentication)) ∧
    (∀ notice ∈ news, notice.level = .error → notice.message =
      "Bad MAC on packet, possible tampering or wrong key; dropping connection") ∧
    ((∃ notice ∈ news, notice.level = .warn) ↔
      ∃ cause, cause ≠ .authentication ∧ server.Verdict id packet state (.error cause))

/-- Every packet is judged by the first thing that speaks against it, whatever the server holds. -/
theorem classified (server : Dispatcher τ σ ξ φ) (id : ConnectionId) (packet : Bytes)
    (state : State τ σ ξ φ) : server.Classified id packet state where
  verdict _ := receive_eq_iff
  exchange _ peeked refused := KeyExchange.exact.error_of_peek peeked rfl refused
  request _ peeked refused := Envelope.exact.error_of_peek peeked rfl refused
  logged := by
    obtain ⟨news, added, logged⟩ := server.exists_logged id packet state
    -- What is logged follows the outcome, and the outcome is the verdict.
    refine ⟨news, added, logged, ?_, logged.alarm_message, ?_⟩
    · rw [logged.alarm_iff, receive_eq_iff]
    · rw [logged.warning_iff]
      simp only [receive_eq_iff]

end Dispatcher

end CallGate
