import CallGate.Proofs.Dispatcher.History
import CallGate.Proofs.Packet.Layout
import CallGate.Proofs.Register

/-! The gate: which events of a run enter a region, and with which register file. -/

namespace CallGate

/-- One entry into a region. -/
structure Entry where
  /-- The block that is entered. -/
  block : LockedBlock
  /-- The register file it is entered with. -/
  file : RegisterFile
  deriving DecidableEq, Repr

/-- The same way in, with every entry noted next to its own state. -/
def Trampoline.recorded {ξ : Type} (trampoline : Trampoline ξ) : Trampoline (ξ × List Entry) where
  enter block file state :=
    let (after, inner) := trampoline.enter block file state.1
    (after, inner, state.2 ++ [⟨block, file⟩])

namespace Invoker

variable {ξ φ : Type}

/-- The same invoker, with every entry noted. -/
def recorded (invoker : Invoker ξ φ) : Invoker (ξ × List Entry) φ :=
  ⟨invoker.trampoline.recorded, invoker.flags⟩

/-- The state of an invoker together with the entries noted so far. -/
def State.recording (state : State ξ φ) (entries : List Entry) : State (ξ × List Entry) φ :=
  ⟨(state.trampoline, entries), state.flags⟩

/-- The register file a region is entered with: the client's, except that every flag that governs
the processor is the server's own. -/
def admitted (invoker : Invoker ξ φ) (file : RegisterFile) (state : State ξ φ) : RegisterFile :=
  let baseline := (invoker.flags.read state.flags).1
  { file with
    rflags := (baseline.bits &&& ~~~Flags.statusMask) ||| (file.rflags &&& Flags.statusMask) }

/-- The entry that running a register file makes, if its token lies within the table. -/
def entered? (invoker : Invoker ξ φ) (table : RegionTable) (file : RegisterFile)
    (state : State ξ φ) : Option Entry :=
  table.regions[file.token.toNat]?.map fun region => ⟨region.block, invoker.admitted file state⟩

/-- Running a register file makes its entry, and noting it changes nothing else. -/
theorem invoke_recorded (invoker : Invoker ξ φ) (table : RegionTable) (file : RegisterFile)
    (state : State ξ φ) (entries : List Entry) :
    invoker.recorded.invoke table file (state.recording entries) =
      ((invoker.invoke table file state).1, (invoker.invoke table file state).2.recording
        (entries ++ (invoker.entered? table file state).toList)) := by
  -- Either no region stands at the token and nothing is entered, or exactly that region is.
  cases found : table.regions[file.token.toNat]? with
  | none => simp [invoke, RegionTable.lookup, entered?, found]
  | some region =>
    simp [invoke, RegionTable.lookup, entered?, found, recorded, State.recording,
      Trampoline.recorded, admitted, FlagSource.guard, FlagGuard.enter, Flags.withStatusOf,
      Flags.nonStatus, Flags.status]

end Invoker

namespace Dispatcher

variable {τ σ ξ φ : Type}

/-- The same server, with every entry into a region noted. -/
def recordingEntries (server : Dispatcher τ σ ξ φ) : Dispatcher τ σ (ξ × List Entry) φ where
  transport := server.transport
  crypto := server.crypto
  invoker := server.invoker.recorded
  keys := server.keys
  table := server.table
  pollInterval := server.pollInterval

/-- What a server holds together with the entries noted so far. -/
def State.recording (state : State τ σ ξ φ) (entries : List Entry) :
    State τ σ (ξ × List Entry) φ where
  transport := state.transport
  crypto := state.crypto
  invoker := state.invoker.recording entries
  connections := state.connections
  log := state.log

/-- A server that notes entries polls the same transport. -/
@[simp] theorem transport_recordingEntries (server : Dispatcher τ σ ξ φ) :
    server.recordingEntries.transport = server.transport := rfl

/-- A server that notes entries polls at the same intervals. -/
@[simp] theorem pollInterval_recordingEntries (server : Dispatcher τ σ ξ φ) :
    server.recordingEntries.pollInterval = server.pollInterval := rfl

/-- The entry that answering a request makes, if the session opens it. -/
def answerEntered? (server : Dispatcher τ σ ξ φ) (session : Session) (packet : Bytes) (crypto : σ)
    (invoker : Invoker.State ξ φ) : Option Entry :=
  match (Channel.unwrap server.crypto session packet crypto).1 with
  | .ok (_, file) => server.invoker.entered? server.table file invoker
  | .error _ => none

/-- The entry that an event makes, if it makes one. -/
def entered? (server : Dispatcher τ σ ξ φ) (moment : Moment τ σ ξ φ) : Option Entry :=
  match moment.event with
  | .received id packet =>
    match PacketKind.peek packet, moment.state.connections.get? id with
    | .ok .execute, some (.established session) =>
      server.answerEntered? session packet moment.state.crypto moment.state.invoker
    | _, _ => none
  | _ => none

/-- The events that may enter a region, each with the entry it makes.

Such an event is a packet of 180 bytes on a connection with a session. It opens with the number
of a request, its tag is right under the key of the session, and the token it hides lies within
the table. -/
inductive Admits (server : Dispatcher τ σ ξ φ) : Moment τ σ ξ φ → Entry → Prop
  | request (id : ConnectionId) (packet : Bytes) (state : State τ σ ξ φ) (session : Session)
    (nonce : Nonce) (ciphertext text : FixedBytes RegisterFile.size) (tag : Tag) (region : Region)
    (known : state.connections.get? id = some (.established session))
    (length : packet.length = 180)
    (opening : packet.take 4 = [1, 0, 0, 0])
    (drawn : (packet.drop 4).take 24 = nonce.toList)
    (hidden : (packet.drop 28).take 136 = ciphertext.toList)
    (closing : packet.drop 164 = tag.toList)
    (authentic : (server.crypto.decrypt session.key nonce [1, 0, 0, 0] ciphertext tag
      state.crypto).1 = .ok text)
    (found : server.table.regions[Bytes.value (text.toList.drop 128)]? = some region) :
    Admits server ⟨.received id packet, state⟩
      { block := region.block
        file := { RegisterFile.ofBytes text with
          rflags := ((server.invoker.flags.read state.invoker.flags).1.bits &&&
              ~~~Flags.statusMask) |||
            ((RegisterFile.ofBytes text).rflags &&& Flags.statusMask) } }

/-- Answering a request makes its entry, and noting it changes nothing else. -/
theorem answer_recordingEntries (server : Dispatcher τ σ ξ φ) (session : Session) (packet : Bytes)
    (crypto : σ) (invoker : Invoker.State ξ φ) (entries : List Entry) :
    server.recordingEntries.answer session packet crypto (invoker.recording entries) =
      ((server.answer session packet crypto invoker).1,
        (server.answer session packet crypto invoker).2.1,
        (server.answer session packet crypto invoker).2.2.recording
          (entries ++ (server.answerEntered? session packet crypto invoker).toList)) := by
  -- The layers are taken in the order in which they are tried: opening, running, sealing.
  -- An entry is made as soon as the run is reached, whatever comes of the answer.
  cases unwrapped : Channel.unwrap server.crypto session packet crypto with
  | mk outcome crypto =>
    cases outcome with
    | error error => simp [answer, answerEntered?, recordingEntries, unwrapped]
    | ok opened =>
      cases ran : server.invoker.invoke server.table opened.2 invoker with
      | mk outcome invoker =>
        cases outcome with
        | error error =>
          simp [answer, answerEntered?, recordingEntries, unwrapped, Invoker.invoke_recorded, ran]
        | ok after =>
          cases wrapped : Channel.wrap server.crypto session .stateTransfer after crypto with
          | mk outcome crypto =>
            cases outcome <;>
              simp [answer, answerEntered?, recordingEntries, unwrapped, Invoker.invoke_recorded,
                ran, wrapped]

/-- Receiving a packet makes its entry, and noting it changes nothing else. -/
theorem receive_recordingEntries (server : Dispatcher τ σ ξ φ) (id : ConnectionId)
    (packet : Bytes) (state : State τ σ ξ φ) (entries : List Entry) :
    server.recordingEntries.receive id packet (state.recording entries) =
      ((server.receive id packet state).1, (server.receive id packet state).2.recording
        (entries ++ (server.entered? ⟨.received id packet, state⟩).toList)) := by
  -- Only a packet that opens like a request can come as far as the invoker.
  cases peeked : PacketKind.peek packet with
  | error error => simp [receive, entered?, peeked]
  | ok kind =>
    cases kind with
    | stateTransfer => simp [receive, entered?, peeked]
    | keyExchange =>
      -- A session may follow, but that is none of the invoker's business.
      simp only [receive, entered?, peeked, Option.toList_none, List.append_nil, establish]
      cases known : state.connections.get? id with
      | none => simp [State.recording, known]
      | some phase =>
        cases phase with
        | established session => simp [State.recording, known]
        | awaiting =>
          cases decoded : KeyExchange.decode packet with
          | error error => simp [State.recording, known]
          | ok message =>
            cases completed : Handshake.complete server.crypto server.keys message state.crypto with
            | mk outcome crypto =>
              cases outcome <;>
                simp [State.recording, State.note, recordingEntries, known, completed]
    | execute =>
      cases known : state.connections.get? id with
      | none => simp [receive, entered?, execute, State.recording, peeked, known]
      | some phase =>
        cases phase with
        | awaiting => simp [receive, entered?, execute, State.recording, peeked, known]
        | established session =>
          have noted := server.answer_recordingEntries session packet state.crypto state.invoker
            entries
          cases answered : server.answer session packet state.crypto state.invoker with
          | mk outcome rest =>
            cases outcome with
            | error error =>
              simp [receive, entered?, execute, State.recording, peeked, known, noted, answered]
            | ok envelope =>
              -- The entry stands already, whether or not the answer can be sent.
              cases sent : server.transport.send id envelope.encode state.transport with
              | mk outcome transport =>
                cases outcome <;>
                  simp [receive, entered?, execute, State.recording, peeked, known, noted, answered,
                    sent]

/-- Handling an event makes its entry, and noting it changes nothing else. -/
theorem handle_recordingEntries (server : Dispatcher τ σ ξ φ) (event : Event)
    (state : State τ σ ξ φ) (entries : List Entry) :
    server.recordingEntries.handle event (state.recording entries) =
      (server.handle event state).recording
        (entries ++ (server.entered? ⟨event, state⟩).toList) := by
  -- Greetings and partings never reach the invoker, so packets are all that matters.
  cases event with
  | connected id =>
    cases sent : server.transport.send id (Handshake.hello server.keys).encode state.transport with
    | mk outcome transport =>
      cases outcome <;>
        simp [handle, welcome, entered?, recordingEntries, State.recording, State.note, sent]
  | received id packet =>
    have noted := server.receive_recordingEntries id packet state entries
    cases received : server.receive id packet state with
    | mk outcome next =>
      -- What is rejected keeps its invoker, so the entry made before the refusal stays noted.
      cases outcome with
      | error cause =>
        simp only [handle, noted, received]
        rfl
      | ok _ => simp only [handle, noted, received]
  | disconnected id =>
    by_cases known : state.connections.contains id <;>
      simp [handle, entered?, State.forget, State.recording, State.note, known]
  | timedOut id =>
    by_cases known : state.connections.contains id <;>
      simp [handle, entered?, State.forget, State.recording, State.note, known]

/-- A run makes the entries of its events in their order, and noting them changes nothing else. -/
theorem steps_recordingEntries (server : Dispatcher τ σ ξ φ) (budget : Nat)
    (state : State τ σ ξ φ) (entries : List Entry) :
    server.recordingEntries.steps budget (state.recording entries) =
      ((server.steps budget state).1, (server.steps budget state).2.recording
        (entries ++ (server.history budget state).filterMap server.entered?)) := by
  -- The induction follows the polls, with the entries noted so far left open.
  induction budget generalizing state entries with
  | zero => simp [steps, history]
  | succ budget ih =>
    cases came : server.transport.poll server.pollInterval state.transport with
    | mk outcome transport =>
      have moved : server.polled state = { state with transport } := by simp [polled, came]
      -- Noting entries commutes with moving the transport, which knows nothing of them.
      have noted : ∀ entries, State.recording { state with transport } entries =
          { state.recording entries with transport } := fun _ => rfl
      have polled : server.transport.poll server.pollInterval (state.recording entries).transport =
          (outcome, transport) := came
      cases outcome with
      | error error => simp [steps, step, history, came, polled, noted]
      | ok event? =>
        cases event? with
        | none => simp [steps, step, history, came, polled, moved, ← noted, ih]
        | some event =>
          -- The event's own entry comes first, and those of the later events follow.
          simp only [steps, step, history, came, polled, moved, ← noted,
            transport_recordingEntries, pollInterval_recordingEntries, handle_recordingEntries, ih,
            after, List.filterMap_cons, List.append_assoc]
          cases server.entered? ⟨event, { state with transport }⟩ <;> simp

/-- The entry of a request is made from the text that its packet hides. -/
theorem answerEntered?_eq_some_iff {server : Dispatcher τ σ ξ φ} {session : Session}
    {packet : Bytes} {crypto : σ} {invoker : Invoker.State ξ φ} {entry : Entry} :
    server.answerEntered? session packet crypto invoker = some entry ↔
      ∃ envelope text region, Envelope.decode packet = .ok envelope ∧
        (server.crypto.decrypt session.key envelope.nonce envelope.associatedData
          envelope.ciphertext envelope.tag crypto).1 = .ok text ∧
        server.table.regions[(RegisterFile.ofBytes text).token.toNat]? = some region ∧
        entry = ⟨region.block, server.invoker.admitted (.ofBytes text) invoker⟩ := by
  -- Whatever stops before the text is known makes no entry, so both sides fail together.
  cases decoded : Envelope.decode packet with
  | error error => simp [answerEntered?, Channel.unwrap, decoded]
  | ok envelope =>
    cases opened : server.crypto.decrypt session.key envelope.nonce envelope.associatedData
        envelope.ciphertext envelope.tag crypto with
    | mk outcome next =>
      cases outcome with
      | error error =>
        simp [answerEntered?, Channel.unwrap, Channel.unwrapEnvelope, decoded, opened]
      | ok text =>
        simp [answerEntered?, Channel.unwrap, Channel.unwrapEnvelope, Invoker.entered?, decoded,
          opened, eq_comm (a := entry)]

/-- An event makes an entry exactly when it may enter a region with it. -/
theorem entered?_eq_some_iff {server : Dispatcher τ σ ξ φ} {moment : Moment τ σ ξ φ}
    {entry : Entry} : server.entered? moment = some entry ↔ server.Admits moment entry := by
  constructor
  · obtain ⟨event, state⟩ := moment
    intro made
    cases event with
    | received id packet =>
      simp only [entered?] at made
      -- Anything but a request on a connection with a session makes no entry.
      split at made
      · rename_i session peeked known
        obtain ⟨envelope, text, region, decoded, opened, found, rfl⟩ :=
          answerEntered?_eq_some_iff.mp made
        obtain ⟨whole, _⟩ := Envelope.eq_encode_of_decode decoded
        -- The packet was peeked at as a request, and its envelope is of the same kind.
        have kind : envelope.kind = .execute := by
          rw [whole, Envelope.peek_encode] at peeked
          exact Except.ok.inj peeked
        -- So its fields lie where the layout of an envelope says.
        obtain ⟨length, opening, drawn, hidden, closing⟩ := Envelope.eq_encode_iff.mp whole
        rw [RegisterFile.toNat_token_ofBytes] at found
        rw [kind, PacketKind.toBytes_execute] at opening
        rw [Envelope.associatedData, kind, PacketKind.toBytes_execute] at opened
        exact .request id packet state session envelope.nonce envelope.ciphertext text
          envelope.tag region known length opening drawn hidden closing opened found
      · cases made
    | connected id => cases made
    | disconnected id => cases made
    | timedOut id => cases made
  · rintro ⟨id, packet, state, session, nonce, ciphertext, text, tag, region, known, length,
      opening, drawn, hidden, closing, authentic, found⟩
    -- The stretches of the packet are the fields of an envelope for a request.
    have whole : packet = (Envelope.mk .execute nonce ciphertext tag).encode :=
      Envelope.eq_encode_iff.mpr
        ⟨length, opening.trans PacketKind.toBytes_execute.symm, drawn, hidden, closing⟩
    have decoded : Envelope.decode packet = .ok ⟨.execute, nonce, ciphertext, tag⟩ :=
      Envelope.decode_eq_ok_iff.mpr ⟨whole, rfl⟩
    have peeked : PacketKind.peek packet = .ok .execute := by
      rw [whole, Envelope.peek_encode]
    rw [← PacketKind.toBytes_execute] at authentic
    rw [← RegisterFile.toNat_token_ofBytes] at found
    simp only [entered?, peeked, known]
    exact answerEntered?_eq_some_iff.mpr ⟨_, text, region, decoded, authentic, found, rfl⟩

/-- A region is entered once for each event of a run that may enter it, in the order of the
events, and by nothing else. -/
theorem entries_of_run (server : Dispatcher τ σ ξ φ) (budget : Nat) (state : State τ σ ξ φ) :
    ∃ made : Moment τ σ ξ φ → Option Entry,
      (∀ moment entry, made moment = some entry ↔ server.Admits moment entry) ∧
      server.recordingEntries.steps budget (state.recording []) =
        ((server.steps budget state).1, (server.steps budget state).2.recording
          ((server.history budget state).filterMap made)) :=
  -- The events that make entries are those that may enter a region, in both directions.
  ⟨server.entered?, fun _ _ => entered?_eq_some_iff, by simp [steps_recordingEntries]⟩

end Dispatcher

end CallGate
