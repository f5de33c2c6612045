import CallGate.Proofs.Dispatcher.Gate
import CallGate.Proofs.Dispatcher.Reception

/-! What a run costs: every call of a primitive is owed to an event of the run. -/

namespace CallGate

namespace RequestError

/-- A packet is refused for this before anything is computed: for its length, its kind, its
version, or for where its connection stands. -/
def isFormal : RequestError → Bool
  | versionMismatch _ _ | malformed _ | unknownKind _ | unexpectedKind _ => true
  | handshakeRequired | repeatedHandshake => true
  | authentication | invalidToken _ _ | encryption | transport _ => false

/-- What the channel refuses is never a token. -/
theorem ofChannel_ne_invalidToken (error : ChannelError) (token : UInt64) (regions : Nat) :
    ofChannel error ≠ .invalidToken token regions := by
  -- What is malformed has a cause of its own, and none of these concerns a token either.
  cases error with
  | malformed cause => cases cause <;> simp [ofChannel, ofPacket]
  | authentication => simp [ofChannel]
  | encryption => simp [ofChannel]

/-- What the primitives refuse, they refuse after they were called. -/
theorem isFormal_ofCrypto (error : CryptoError) :
    (ofChannel (.ofCrypto error)).isFormal = false := by
  -- Each error of the primitives is reported as an error of authentication or encryption.
  cases error <;> rfl

end RequestError

section Primitives

variable {σ : Type} {crypto : Primitives σ} {state next : σ × Tally}

/-- A handshake that is completed agrees once and digests once. -/
theorem Handshake.tally_complete {server : KeyPair} {message : KeyExchange} {session : Session}
    (completed : complete crypto.counted server message state = (.ok session, next)) :
    next.2 = { state.2 with
      agreements := state.2.agreements + 1
      digests := state.2.digests + 1 } := by
  -- A client of another version would be refused, so this one has the right version.
  by_cases version : message.version = protocolVersion
  · simp only [complete, checkVersion, version, if_true, sessionKey, Primitives.counted,
      Prod.mk.injEq] at completed
    rw [← completed.2]
  · simp [complete, checkVersion, version] at completed

/-- Opening calls one decryption, whatever comes of it. -/
theorem Primitives.tally_decrypt {size : Nat} {key : SessionKey} {nonce : Nonce}
    {associated : Bytes} {ciphertext : FixedBytes size} {tag : Tag}
    {outcome : Except CryptoError (FixedBytes size)}
    (decrypted : crypto.counted.decrypt key nonce associated ciphertext tag state =
      (outcome, next)) : next.2 = { state.2 with decryptions := state.2.decryptions + 1 } := by
  -- The counter is moved on by the definition of counting, beside the call itself.
  simp only [Primitives.counted, Prod.mk.injEq] at decrypted
  rw [← decrypted.2]

/-- Sealing draws one nonce and calls one encryption, whatever comes of it. -/
theorem Channel.tally_wrap {session : Session} {kind : PacketKind} {file : RegisterFile}
    {outcome : Except ChannelError Envelope}
    (wrapped : wrap crypto.counted session kind file state = (outcome, next)) :
    next.2 = { state.2 with
      randoms := state.2.randoms + 1
      encryptions := state.2.encryptions + 1 } := by
  -- The nonce is drawn first, and then the text is sealed with it.
  cases drawn : crypto.random nonceSize state.1 with
  | mk nonce inner =>
    cases encrypted : crypto.encrypt session.key nonce kind.toBytes file.toBytes inner with
    | mk sealing last =>
      -- The encryption is counted before it is known whether it succeeds.
      cases sealing <;>
        simp only [wrap, Primitives.counted, drawn, encrypted, Prod.mk.injEq] at wrapped <;>
        rw [← wrapped.2]

/-- If sealing fails, it is because the primitives refuse. -/
theorem Channel.error_of_wrap {σ : Type} {crypto : Primitives σ} {state next : σ}
    {session : Session} {kind : PacketKind} {file : RegisterFile} {error : ChannelError}
    (wrapped : wrap crypto session kind file state = (.error error, next)) :
    ∃ cause, error = .ofCrypto cause := by
  -- Drawing a nonce cannot fail, so the error is that of the encryption.
  cases drawn : crypto.random nonceSize state with
  | mk nonce inner =>
    cases encrypted : crypto.encrypt session.key nonce kind.toBytes file.toBytes inner with
    | mk sealing last =>
      cases sealing with
      | error cause =>
        simp only [wrap, drawn, encrypted, Prod.mk.injEq, Except.error.injEq] at wrapped
        exact ⟨cause, wrapped.1.symm⟩
      | ok block => simp [wrap, drawn, encrypted] at wrapped

end Primitives

namespace Dispatcher

variable {τ σ ξ φ : Type}

/-- The same server, with every call of a primitive counted. -/
def counting (server : Dispatcher τ σ ξ φ) : Dispatcher τ (σ × Tally) ξ φ where
  transport := server.transport
  crypto := server.crypto.counted
  invoker := server.invoker
  keys := server.keys
  table := server.table
  pollInterval := server.pollInterval

namespace Moment

/-- A key exchange of this version comes on a connection that waits for one. -/
def exchanges (moment : Moment τ σ ξ φ) : Bool :=
  match moment.event with
  | .received id packet =>
    packet.length = 40 ∧ packet.take 4 = [0, 0, 0, 0] ∧ (packet.drop 4).take 4 = [1, 0, 0, 0] ∧
      moment.state.connections.get? id = some .awaiting
  | _ => false

/-- A packet that looks like a sealed request comes on a connection with a session. -/
def requests (moment : Moment τ σ ξ φ) : Bool :=
  match moment.event with
  | .received id packet =>
    packet.length = 180 ∧ packet.take 4 = [1, 0, 0, 0] ∧ moment.state.hasSession id
  | _ => false

end Moment

/-- A request comes whose opening the primitives refuse. -/
def unopened (server : Dispatcher τ σ ξ φ) (moment : Moment τ σ ξ φ) : Bool :=
  match moment.event with
  | .received id packet =>
    match moment.state.connections.get? id with
    | some (.established session) =>
      moment.requests &&
        !(Channel.unwrap server.crypto session packet moment.state.crypto).1.isOk
    | _ => false
  | _ => false

/-- A packet comes that is refused for its token. -/
def misdirected (server : Dispatcher τ σ ξ φ) (moment : Moment τ σ ξ φ) : Bool :=
  match moment.event with
  | .received id packet =>
    match (server.receive id packet moment.state).1 with
    | .error (.invalidToken _ _) => true
    | _ => false
  | _ => false

section Classifying

variable {server : Dispatcher τ σ ξ φ} {id : ConnectionId} {packet : Bytes}
  {state : State τ σ ξ φ}

/-- A key exchange is one that is read as a message of this version. -/
theorem exchanges_eq_true_iff :
    (Moment.mk (.received id packet) state).exchanges = true ↔
      state.connections.get? id = some .awaiting ∧
        ∃ message, KeyExchange.decode packet = .ok message ∧
          message.version = protocolVersion := by
  -- The version in the packet is the version of the protocol, in little-endian order.
  have one : Bytes.ofUInt32 protocolVersion = [1, 0, 0, 0] := by decide
  rw [KeyExchange.exists_decode_iff, one]
  simp only [Moment.exchanges, decide_eq_true_eq]
  -- Both sides list the same conditions in another order.
  constructor
  · rintro ⟨length, opening, version, waiting⟩
    exact ⟨waiting, length, opening, version⟩
  · rintro ⟨waiting, length, opening, version⟩
    exact ⟨length, opening, version, waiting⟩

/-- A request is one that is read as an envelope of its kind. -/
theorem requests_eq_true_iff :
    (Moment.mk (.received id packet) state).requests = true ↔
      (∃ session, state.connections.get? id = some (.established session)) ∧
        ∃ envelope, Envelope.decode packet = .ok envelope ∧ envelope.kind = .execute := by
  rw [Envelope.exists_decode_iff rfl, PacketKind.toBytes_execute,
    ← State.hasSession_eq_true_iff]
  simp only [Moment.requests, decide_eq_true_eq]
  constructor
  · rintro ⟨length, opening, holding⟩
    exact ⟨holding, length, opening⟩
  · rintro ⟨holding, length, opening⟩
    exact ⟨length, opening, holding⟩

/-- Only a request makes an entry. -/
theorem entered?_of_not_requests
    (other : (Moment.mk (.received id packet) state).requests = false) :
    server.entered? ⟨.received id packet, state⟩ = none := by
  -- Were there an entry, the event would be one that may enter a region.
  cases made : server.entered? ⟨.received id packet, state⟩ with
  | none => rfl
  | some entry =>
    -- Whatever may enter a region has the length, the opening and the session of a request.
    cases entered?_eq_some_iff.mp made with
    | request _ _ _ session _ _ _ _ _ known length opening =>
      have holding : state.hasSession id = true :=
        State.hasSession_eq_true_iff.mpr ⟨session, known⟩
      simp [Moment.requests, length, opening, holding] at other

/-- A request that its session opens makes an entry exactly when a region stands at its token. -/
theorem entered?_of_request {session : Session} {text : FixedBytes RegisterFile.size} {crypto : σ}
    (request : server.Request id packet state session text crypto) :
    server.entered? ⟨.received id packet, state⟩ =
      server.invoker.entered? server.table (.ofBytes text) state.invoker := by
  obtain ⟨envelope, decoded, kind, opened⟩ := request.opened
  -- The packet opens like the envelope that it was read as.
  have peeked : PacketKind.peek packet = .ok .execute := by
    rw [(Envelope.eq_encode_of_decode decoded).1, Envelope.peek_encode, kind]
  simp only [entered?, peeked, request.known, answerEntered?,
    Channel.unwrap_of_opened decoded opened]

/-- No key exchange is refused for a token. -/
theorem establish_ne_invalidToken (token : UInt64) (regions : Nat) :
    (server.establish id packet state).1 ≠ .error (.invalidToken token regions) := by
  unfold establish
  intro refusal
  -- The connection may stand wrong, or the packet may be malformed or of another version.
  split at refusal
  · simp at refusal
  · simp at refusal
  · split at refusal
    · rename_i error _
      cases error <;> simp [RequestError.ofPacket] at refusal
    · split at refusal
      · rename_i error _ _
        cases error
        simp [RequestError.ofHandshake] at refusal
      · simp at refusal

/-- A packet that is refused for its token is a request. -/
theorem requests_of_invalidToken {token : UInt64} {regions : Nat}
    (refusal : (server.receive id packet state).1 = .error (.invalidToken token regions)) :
    (Moment.mk (.received id packet) state).requests = true := by
  -- The kind the packet opens with decides which way it is received.
  cases peeked : PacketKind.peek packet with
  | error error => cases error <;> simp [receive, peeked, RequestError.ofPacket] at refusal
  | ok kind =>
    cases kind with
    -- A packet of the last kind is refused on sight, and a key exchange on other grounds.
    | stateTransfer => simp [receive, peeked] at refusal
    | keyExchange =>
      simp only [receive, peeked] at refusal
      exact absurd refusal (establish_ne_invalidToken token regions)
    | execute =>
      simp only [receive, peeked, execute] at refusal
      split at refusal
      · rename_i session known
        -- Only the token of a packet that is an envelope of this kind is ever looked at.
        refine requests_eq_true_iff.mpr ⟨⟨session, known⟩, ?_⟩
        cases decoded : Envelope.decode packet with
        | ok envelope =>
          rw [(Envelope.eq_encode_of_decode decoded).1, Envelope.peek_encode] at peeked
          exact ⟨envelope, rfl, Except.ok.inj peeked⟩
        | error error =>
          simp only [answer, Channel.unwrap_of_malformed decoded, Except.error.injEq] at refusal
          exact absurd refusal (RequestError.ofChannel_ne_invalidToken _ token regions)
      · simp at refusal

/-- A packet is misdirected exactly when a token is what it is refused for. -/
theorem misdirected_eq_true_iff : server.misdirected ⟨.received id packet, state⟩ = true ↔
    ∃ token regions,
      (server.receive id packet state).1 = .error (.invalidToken token regions) := by
  simp only [misdirected]
  -- Either the packet was refused for a token, or it came to something else.
  split
  · rename_i token regions refusal
    exact ⟨fun _ => ⟨token, regions, refusal⟩, fun _ => rfl⟩
  · rename_i other
    exact ⟨fun wrong => absurd wrong (by simp), fun ⟨token, regions, refusal⟩ =>
      absurd refusal (other token regions)⟩

/-- On a connection with a session, a request is not opened exactly when its session refuses. -/
theorem unopened_of_known {session : Session}
    (known : state.connections.get? id = some (.established session)) :
    server.unopened ⟨.received id packet, state⟩ =
      ((Moment.mk (.received id packet) state).requests &&
        !(Channel.unwrap server.crypto session packet state.crypto).1.isOk) := by
  simp only [unopened, known]

/-- What is not a request is neither misdirected nor counted as unopened. -/
theorem verdict_of_not_requests
    (other : (Moment.mk (.received id packet) state).requests = false) :
    server.unopened ⟨.received id packet, state⟩ = false ∧
      server.misdirected ⟨.received id packet, state⟩ = false := by
  -- Without a session there is nothing that could refuse to open.
  constructor
  · cases known : state.connections.get? id with
    | none => simp [unopened, known]
    | some phase =>
      cases phase with
      | awaiting => simp [unopened, known]
      | established session => rw [unopened_of_known known, other, Bool.false_and]
  · -- A token is looked at in a request only.
    rw [Bool.eq_false_iff]
    intro wrong
    obtain ⟨token, regions, refusal⟩ := misdirected_eq_true_iff.mp wrong
    rw [requests_of_invalidToken refusal] at other
    cases other

end Classifying

/-- What the calls of primitives and the verdict on a request come to when an event is handled. -/
structure Account (server : Dispatcher τ σ ξ φ) (moment : Moment τ (σ × Tally) ξ φ)
    (after : Tally) : Prop where
  /-- A key exchange costs an agreement and a digest, a request costs an opening, and an entry
  costs a nonce and a sealing. -/
  tally : after = {
    agreements := moment.state.crypto.2.agreements + moment.exchanges.toNat
    digests := moment.state.crypto.2.digests + moment.exchanges.toNat
    randoms := moment.state.crypto.2.randoms +
      (server.counting.entered? moment).isSome.toNat
    encryptions := moment.state.crypto.2.encryptions +
      (server.counting.entered? moment).isSome.toNat
    decryptions := moment.state.crypto.2.decryptions + moment.requests.toNat }
  /-- A request enters a region, is not opened, or is refused for its token. -/
  shares : (server.counting.entered? moment).isSome.toNat +
      (server.counting.unopened moment).toNat + (server.counting.misdirected moment).toNat =
    moment.requests.toNat

section Accounting

variable {server : Dispatcher τ σ ξ φ} {id : ConnectionId} {packet : Bytes}
  {state : State τ (σ × Tally) ξ φ}

/-- A packet that is no request makes no entry, so all it can cost is a key exchange. -/
theorem account_of_not_requests {after : Tally}
    (other : (Moment.mk (.received id packet) state).requests = false)
    (tally : after = { state.crypto.2 with
      agreements := state.crypto.2.agreements +
        (Moment.mk (.received id packet) state).exchanges.toNat
      digests := state.crypto.2.digests +
        (Moment.mk (.received id packet) state).exchanges.toNat }) :
    server.Account ⟨.received id packet, state⟩ after := by
  -- What does not hold of this event has no share in the account, so the account is what is left.
  have noEntry : server.counting.entered? ⟨.received id packet, state⟩ = none :=
    entered?_of_not_requests other
  obtain ⟨opened, directed⟩ : server.counting.unopened ⟨.received id packet, state⟩ = false ∧
      server.counting.misdirected ⟨.received id packet, state⟩ = false :=
    verdict_of_not_requests other
  exact ⟨by simp [tally, other, noEntry], by simp [other, noEntry, opened, directed]⟩

/-- A request is no key exchange, so all it can cost is an opening, and what follows an entry. -/
theorem account_of_requests {after : Tally} {session : Session}
    (known : state.connections.get? id = some (.established session))
    (request : (Moment.mk (.received id packet) state).requests = true)
    (tally : after = { state.crypto.2 with
      randoms := state.crypto.2.randoms +
        (server.counting.entered? ⟨.received id packet, state⟩).isSome.toNat
      encryptions := state.crypto.2.encryptions +
        (server.counting.entered? ⟨.received id packet, state⟩).isSome.toNat
      decryptions := state.crypto.2.decryptions + 1 })
    (shares : (server.counting.entered? ⟨.received id packet, state⟩).isSome.toNat +
      (server.counting.unopened ⟨.received id packet, state⟩).toNat +
        (server.counting.misdirected ⟨.received id packet, state⟩).toNat = 1) :
    server.Account ⟨.received id packet, state⟩ after := by
  -- A connection waits for a key or has a session, and never both.
  have noExchange : (Moment.mk (.received id packet) state).exchanges = false := by
    rw [Bool.eq_false_iff]
    intro wrong
    obtain ⟨waiting, _⟩ := exchanges_eq_true_iff.mp wrong
    simp [known] at waiting
  exact ⟨by simp [tally, request, noExchange], by simp [shares, request]⟩

/-- A request that its session opens is a request. -/
theorem Request.requests {server : Dispatcher τ σ ξ φ} {state : State τ σ ξ φ}
    {session : Session} {text : FixedBytes RegisterFile.size} {crypto : σ}
    (request : server.Request id packet state session text crypto) :
    (Moment.mk (.received id packet) state).requests = true := by
  -- The session has opened an envelope, so there is one, and it is of the right kind.
  obtain ⟨envelope, decoded, kind, _⟩ := request.opened
  exact requests_eq_true_iff.mpr ⟨⟨session, request.known⟩, envelope, decoded, kind⟩

/-- It is not among those that the primitives refuse. -/
theorem Request.unopened_eq_false {server : Dispatcher τ σ ξ φ} {state : State τ σ ξ φ}
    {session : Session} {text : FixedBytes RegisterFile.size} {crypto : σ}
    (request : server.Request id packet state session text crypto) :
    server.unopened ⟨.received id packet, state⟩ = false := by
  obtain ⟨envelope, decoded, _, opened⟩ := request.opened
  -- The session opens the packet, which is what not being refused means.
  rw [unopened_of_known request.known, Channel.unwrap_of_opened decoded opened]
  simp [Except.isOk, Except.toBool]

/-- Opening it costs one decryption. -/
theorem Request.tally {session : Session} {text : FixedBytes RegisterFile.size}
    {crypto : σ × Tally}
    (request : server.counting.Request id packet state session text crypto) :
    crypto.2 = { state.crypto.2 with decryptions := state.crypto.2.decryptions + 1 } := by
  obtain ⟨envelope, _, _, opened⟩ := request.opened
  -- The decryption was called for the very envelope.
  exact Primitives.tally_decrypt opened

/-- A request that enters a region costs a nonce and a sealing, whatever becomes of the answer. -/
theorem account_of_entry {session : Session} {text : FixedBytes RegisterFile.size}
    {opening sealing : σ × Tally} {region : Region} {answer : RegisterFile}
    {outcome : Except ChannelError Envelope} {verdict : Except RequestError Unit}
    (request : server.counting.Request id packet state session text opening)
    (found : server.table.regions[(RegisterFile.ofBytes text).token.toNat]? = some region)
    (wrapped : Channel.wrap server.counting.crypto session .stateTransfer answer opening =
      (outcome, sealing))
    (received : (server.counting.receive id packet state).1 = verdict)
    (directed : ∀ token regions, verdict ≠ .error (.invalidToken token regions)) :
    server.Account ⟨.received id packet, state⟩ sealing.2 := by
  -- The entry is made since a region stands at the token that was opened.
  have entered : (server.counting.entered? ⟨.received id packet, state⟩).isSome = true := by
    have found : server.counting.table.regions[(RegisterFile.ofBytes text).token.toNat]? =
        some region := found
    rw [entered?_of_request request, Invoker.entered?, found]
    rfl
  -- The token was found, so it is not what the packet is refused for.
  have direct : server.counting.misdirected ⟨.received id packet, state⟩ = false := by
    rw [Bool.eq_false_iff]
    intro wrong
    obtain ⟨token, regions, refusal⟩ := misdirected_eq_true_iff.mp wrong
    exact directed token regions (received.symm.trans refusal)
  -- The request's one share goes to the entry.
  refine account_of_requests request.known request.requests ?_ ?_
  · rw [Channel.tally_wrap wrapped, request.tally, entered]
    rfl
  · rw [entered, request.unopened_eq_false, direct]
    rfl

/-- A packet that is refused where it stands costs nothing. -/
theorem account_of_refused
    (noExchange : ∀ message, state.connections.get? id = some .awaiting →
      KeyExchange.decode packet = .ok message → message.version ≠ protocolVersion)
    (noRequest : ∀ session envelope, state.connections.get? id = some (.established session) →
      Envelope.decode packet = .ok envelope → envelope.kind ≠ .execute) :
    server.Account ⟨.received id packet, state⟩ state.crypto.2 := by
  -- The packet is neither an exchange nor a request, so it has nothing to pay for.
  have exchanges : (Moment.mk (.received id packet) state).exchanges = false := by
    rw [Bool.eq_false_iff]
    intro wrong
    obtain ⟨waiting, message, decoded, version⟩ := exchanges_eq_true_iff.mp wrong
    exact noExchange message waiting decoded version
  refine account_of_not_requests ?_ (by simp [exchanges])
  rw [Bool.eq_false_iff]
  intro wrong
  obtain ⟨⟨session, known⟩, envelope, decoded, kind⟩ := requests_eq_true_iff.mp wrong
  exact noRequest session envelope known decoded kind

/-- Establishing a session costs an agreement and a digest. -/
theorem account_of_established {message : KeyExchange} {session : Session} {crypto : σ × Tally}
    (waiting : state.connections.get? id = some .awaiting)
    (decoded : KeyExchange.decode packet = .ok message)
    (version : message.version = protocolVersion)
    (completed : Handshake.complete server.counting.crypto server.keys message state.crypto =
      (.ok session, crypto)) : server.Account ⟨.received id packet, state⟩ crypto.2 := by
  -- The packet is an exchange, and what it costs is what completing a handshake costs.
  have exchanges : (Moment.mk (.received id packet) state).exchanges = true :=
    exchanges_eq_true_iff.mpr ⟨waiting, message, decoded, version⟩
  refine account_of_not_requests ?_ ?_
  · -- A connection that waits for a key has no session that could open anything.
    rw [Bool.eq_false_iff]
    intro wrong
    obtain ⟨⟨session, known⟩, _⟩ := requests_eq_true_iff.mp wrong
    simp [waiting] at known
  · rw [Handshake.tally_complete completed, exchanges]
    rfl

/-- A request that the primitives refuse to open costs the opening and nothing else. -/
theorem account_of_unauthentic {session : Session} {envelope : Envelope} {error : CryptoError}
    {crypto : σ × Tally} (known : state.connections.get? id = some (.established session))
    (decoded : Envelope.decode packet = .ok envelope) (kind : envelope.kind = .execute)
    (closed : server.counting.crypto.decrypt session.key envelope.nonce envelope.associatedData
      envelope.ciphertext envelope.tag state.crypto = (.error error, crypto))
    (received : (server.counting.receive id packet state).1 =
      .error (.ofChannel (.ofCrypto error))) :
    server.Account ⟨.received id packet, state⟩ crypto.2 := by
  -- The packet is a request, and its share goes to those that were not opened.
  have request : (Moment.mk (.received id packet) state).requests = true :=
    requests_eq_true_iff.mpr ⟨⟨session, known⟩, envelope, decoded, kind⟩
  have refused := Channel.unwrap_of_refused decoded closed
  have unopened : server.counting.unopened ⟨.received id packet, state⟩ = true := by
    rw [unopened_of_known known, request, refused]
    rfl
  have noEntry : server.counting.entered? ⟨.received id packet, state⟩ = none := by
    have peeked : PacketKind.peek packet = .ok .execute := by
      rw [(Envelope.eq_encode_of_decode decoded).1, Envelope.peek_encode, kind]
    simp only [entered?, peeked, known, answerEntered?, refused]
  -- The token is not known before the packet is opened.
  have direct : server.counting.misdirected ⟨.received id packet, state⟩ = false := by
    rw [Bool.eq_false_iff]
    intro wrong
    obtain ⟨token, regions, refusal⟩ := misdirected_eq_true_iff.mp wrong
    exact RequestError.ofChannel_ne_invalidToken _ token regions
      (Except.error.inj (received.symm.trans refusal))
  refine account_of_requests known request ?_ ?_
  · rw [Primitives.tally_decrypt closed, noEntry]
    rfl
  · rw [noEntry, unopened, direct]
    rfl

/-- A request for a region that is not there costs the opening and nothing else. -/
theorem account_of_misdirected {session : Session} {text : FixedBytes RegisterFile.size}
    {crypto : σ × Tally} {token : UInt64} {regions : Nat}
    (request : server.counting.Request id packet state session text crypto)
    (outside : server.table.regions[(RegisterFile.ofBytes text).token.toNat]? = none)
    (received : (server.counting.receive id packet state).1 =
      .error (.invalidToken token regions)) :
    server.Account ⟨.received id packet, state⟩ crypto.2 := by
  -- No region stands at the token, so none is entered, and the token is what it is refused for.
  have noEntry : server.counting.entered? ⟨.received id packet, state⟩ = none := by
    have outside : server.counting.table.regions[(RegisterFile.ofBytes text).token.toNat]? =
        none := outside
    rw [entered?_of_request request, Invoker.entered?, outside]
    rfl
  have wrong : server.counting.misdirected ⟨.received id packet, state⟩ = true :=
    misdirected_eq_true_iff.mpr ⟨token, regions, received⟩
  -- The request's one share goes to those with a wrong token.
  refine account_of_requests request.known request.requests ?_ ?_
  · rw [request.tally, noEntry]
    rfl
  · rw [noEntry, request.unopened_eq_false, wrong]
    rfl

/-- Receiving a packet costs what it owes. -/
theorem account_receive (server : Dispatcher τ σ ξ φ) (id : ConnectionId) (packet : Bytes)
    (state : State τ (σ × Tally) ξ φ) :
    server.Account ⟨.received id packet, state⟩
      (server.counting.receive id packet state).2.crypto.2 := by
  have reception := server.counting.receive_reception id packet state
  cases received : server.counting.receive id packet state with
  | mk verdict next =>
    have verdictIs : (server.counting.receive id packet state).1 = verdict := by rw [received]
    rw [received] at reception
    -- Everything that a packet can come to has a cost of its own.
    cases reception with
    | refused cause noExchange noRequest => exact account_of_refused noExchange noRequest
    | established message session crypto waiting decoded version completed =>
      exact account_of_established waiting decoded version completed
    | unauthentic session envelope error crypto known decoded kind closed =>
      exact account_of_unauthentic known decoded kind closed verdictIs
    | misdirected session text crypto request outside =>
      exact account_of_misdirected request outside verdictIs
    -- The region runs in all others, and they differ only in what becomes of the answer.
    | unsealed session text opening sealing region answer invoker error request found ran wrapped =>
      exact account_of_entry request found wrapped verdictIs fun token regions same =>
        RequestError.ofChannel_ne_invalidToken error token regions (Except.error.inj same)
    | unsent session text opening sealing region answer invoker reply cause transport request
        found ran wrapped sent =>
      exact account_of_entry request found wrapped verdictIs (by simp)
    | served session text opening sealing region answer invoker reply transport request found ran
        wrapped sent =>
      exact account_of_entry request found wrapped verdictIs (by simp)

end Accounting

/-- What a server does with a packet once it is received leaves the primitives alone. -/
theorem crypto_handle_received (server : Dispatcher τ σ ξ φ) (id : ConnectionId) (packet : Bytes)
    (state : State τ σ ξ φ) :
    (server.handle (.received id packet) state).crypto =
      (server.receive id packet state).2.crypto := by
  -- A refused packet has its connection closed, which is the transport's affair.
  cases received : server.receive id packet state with
  | mk verdict next =>
    cases verdict with
    | error cause =>
      rw [handle_of_refused received]
      rfl
    | ok _ => rw [handle_of_taken received]

/-- Handling an event costs what the event owes. -/
theorem account_after (server : Dispatcher τ σ ξ φ) (moment : Moment τ (σ × Tally) ξ φ) :
    server.Account moment (server.counting.after moment).crypto.2 := by
  obtain ⟨event, state⟩ := moment
  -- Greetings and partings call no primitive, and they are neither exchanges nor requests.
  have idle (quiet : (server.counting.handle event state).crypto = state.crypto)
      (other : ∀ id packet, event ≠ .received id packet) :
      server.Account ⟨event, state⟩ (server.counting.after ⟨event, state⟩).crypto.2 := by
    rw [after, quiet]
    cases event with
    | received id packet => exact absurd rfl (other id packet)
    | _ => exact ⟨by simp [Moment.exchanges, Moment.requests, entered?],
        by simp [Moment.requests, entered?, unopened, misdirected]⟩
  cases event with
  | received id packet =>
    rw [after, crypto_handle_received]
    exact server.account_receive id packet state
  | connected id =>
    refine idle ?_ (by simp)
    simp only [handle, welcome]
    split <;> rfl
  | disconnected id =>
    refine idle ?_ (by simp)
    simp only [handle, State.forget]
    split <;> rfl
  | timedOut id =>
    refine idle ?_ (by simp)
    simp only [handle, State.forget]
    split <;> rfl

/-- A packet that is refused for its form, or for where its connection stands, reaches no
primitive. -/
theorem crypto_of_formal {server : Dispatcher τ σ ξ φ} {id : ConnectionId} {packet : Bytes}
    {state : State τ σ ξ φ} {cause : RequestError}
    (refusal : (server.receive id packet state).1 = .error cause) (formal : cause.isFormal) :
    (server.handle (.received id packet) state).crypto = state.crypto := by
  -- All the packet can have reached is in the receiving.
  rw [crypto_handle_received]
  have reception := server.receive_reception id packet state
  cases received : server.receive id packet state with
  | mk verdict next =>
    rw [received] at reception refusal
    subst refusal
    -- Of all refusals, only the first comes before the primitives, and no other one is formal.
    cases reception with
    | refused => rfl
    | unauthentic session envelope error => simp [RequestError.isFormal_ofCrypto] at formal
    | misdirected => simp [RequestError.isFormal] at formal
    | unsealed session text opening sealing region answer invoker error request found ran wrapped =>
      obtain ⟨cause, rfl⟩ := Channel.error_of_wrap wrapped
      simp [RequestError.isFormal_ofCrypto] at formal
    | unsent => simp [RequestError.isFormal] at formal

/-- A packet that is refused for its token makes no entry, so nothing is sealed. -/
theorem encryptions_of_invalidToken {server : Dispatcher τ σ ξ φ} {id : ConnectionId}
    {packet : Bytes} {state : State τ (σ × Tally) ξ φ} {token : UInt64} {regions : Nat}
    (refusal : (server.counting.receive id packet state).1 = .error (.invalidToken token regions)) :
    (server.counting.handle (.received id packet) state).crypto.2.encryptions =
      state.crypto.2.encryptions := by
  -- The cost of the packet is known from its account.
  have account := server.account_after ⟨.received id packet, state⟩
  have wrong : server.counting.misdirected ⟨.received id packet, state⟩ = true :=
    misdirected_eq_true_iff.mpr ⟨token, regions, refusal⟩
  -- The one share that the request has goes to the token, and none is left for an entry.
  have noEntry : (server.counting.entered? ⟨.received id packet, state⟩).isSome.toNat = 0 := by
    have shares := account.shares
    rw [wrong, requests_of_invalidToken refusal, Bool.toNat_true] at shares
    omega
  have sealings := congrArg Tally.encryptions account.tally
  rw [noEntry] at sealings
  exact sealings

/-- The shares of all events of a run come to the number of its requests. -/
theorem shares_of_moments (server : Dispatcher τ σ ξ φ)
    (moments : List (Moment τ (σ × Tally) ξ φ)) :
    (moments.filterMap server.counting.entered?).length +
        moments.countP server.counting.unopened + moments.countP server.counting.misdirected =
      moments.countP Moment.requests := by
  -- The shares are added up event by event.
  induction moments with
  | nil => rfl
  | cons moment moments ih =>
    have shares := (server.account_after moment).shares
    rw [List.countP_cons, List.countP_cons, List.countP_cons, ← ih, List.filterMap_cons]
    -- The first event has one share if it is a request, and none otherwise.
    revert shares
    cases server.counting.entered? moment <;> cases server.counting.unopened moment <;>
      cases server.counting.misdirected moment <;> cases moment.requests <;> simp <;> omega

/-- Every call of a primitive in a run is owed to one of its events: agreements and digests to key
exchanges, openings to requests, nonces and sealings to entries into regions. A request enters a
region unless it is not opened or refused for its token. -/
theorem tally_of_run (server : Dispatcher τ σ ξ φ) (budget : Nat)
    (start : State τ (σ × Tally) ξ φ) :
    let moments := server.counting.history budget start
    let final := (server.counting.steps budget start).2
    let recorded := (server.counting.recordingEntries.steps budget (start.recording [])).2
    let entries := recorded.invoker.trampoline.2
    final.crypto.2.agreements =
        start.crypto.2.agreements + moments.countP Moment.exchanges ∧
      final.crypto.2.digests = start.crypto.2.digests + moments.countP Moment.exchanges ∧
      final.crypto.2.decryptions =
        start.crypto.2.decryptions + moments.countP Moment.requests ∧
      final.crypto.2.randoms = start.crypto.2.randoms + entries.length ∧
      final.crypto.2.encryptions = start.crypto.2.encryptions + entries.length ∧
      entries.length + moments.countP server.counting.unopened +
          moments.countP server.counting.misdirected = moments.countP Moment.requests ∧
      -- What a refused packet costs.
      ∀ id packet state cause,
        (server.counting.receive id packet state).1 = .error cause →
          (cause.isFormal →
            (server.counting.handle (.received id packet) state).crypto = state.crypto) ∧
          ∀ token regions, cause = .invalidToken token regions →
            (server.counting.handle (.received id packet) state).crypto.2.encryptions =
              state.crypto.2.encryptions := by
  intro moments final recorded entries
  -- Every number is followed through the run: a poll leaves it alone, an event raises it or not.
  have run : server.counting.Run start moments final := server.counting.run_steps budget start
  -- The entries are those of the events, so they can be counted along the events, too.
  have made : entries = moments.filterMap server.counting.entered? := by
    simp only [entries, recorded, steps_recordingEntries]
    rfl
  have counted : entries.length =
      moments.countP fun moment => (server.counting.entered? moment).isSome := by
    rw [made, List.length_filterMap_eq_countP]
  refine ⟨?_, ?_, ?_, ?_, ?_, ?_, ?_⟩
  · refine run.counts (fun state => state.crypto.2.agreements) (fun _ => rfl) ?_
    exact fun moment => congrArg Tally.agreements (server.account_after moment).tally
  · refine run.counts (fun state => state.crypto.2.digests) (fun _ => rfl) ?_
    exact fun moment => congrArg Tally.digests (server.account_after moment).tally
  · refine run.counts (fun state => state.crypto.2.decryptions) (fun _ => rfl) ?_
    exact fun moment => congrArg Tally.decryptions (server.account_after moment).tally
  -- Nonces and sealings are counted by entries, and so along the events that make one.
  · rw [counted]
    refine run.counts (fun state => state.crypto.2.randoms) (fun _ => rfl) ?_
    exact fun moment => congrArg Tally.randoms (server.account_after moment).tally
  · rw [counted]
    refine run.counts (fun state => state.crypto.2.encryptions) (fun _ => rfl) ?_
    exact fun moment => congrArg Tally.encryptions (server.account_after moment).tally
  · rw [made]
    exact server.shares_of_moments moments
  · intro id packet state cause refusal
    refine ⟨crypto_of_formal refusal, ?_⟩
    rintro token regions rfl
    exact encryptions_of_invalidToken refusal

end Dispatcher

end CallGate
