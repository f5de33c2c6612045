import CallGate.Proofs.Transport.Upkeep

/-! A transport and its caller agree on which connections there are. -/

namespace CallGate

/-- No whole frame is left in the inbox. -/
def Connection.Tidy (connection : Connection) : Prop :=
  (Frame.split connection.inbox).packets = []

/-- Neither is one left where nothing is. -/
theorem Connection.tidy_of_empty {connection : Connection} (empty : connection.inbox = []) :
    connection.Tidy := by
  -- There is no byte to make a packet from.
  rw [Tidy, empty, Frame.split]
  rfl

/-- Events after which the caller goes on with a connection. -/
def Event.isLive : Event → Bool
  | .connected _ => true
  | .received _ _ => true
  | .disconnected _ => false
  | .timedOut _ => false

namespace Tcp

variable {ν : Type}

/-- If no byte came, the inbox holds what it held before. -/
theorem inbox_drain (network : Network ν) (socket : Socket) (inbox : Bytes) (active : Bool)
    (state : ν) (idle : (drain network socket inbox active state).active = false) :
    active = false ∧ (drain network socket inbox active state).inbox = inbox := by
  -- The cases are those of the reading: no byte to be had, the end, an error, and bytes.
  fun_induction drain network socket inbox active state with
  | case1 inbox active state next came => exact ⟨idle, rfl⟩
  | case2 inbox active state next came => exact ⟨idle, rfl⟩
  | case3 inbox active state cause next came => exact ⟨idle, rfl⟩
  | case4 inbox active state bytes nonempty fits next came full => cases idle
  | case5 inbox active state bytes nonempty fits next came room ih =>
    -- Bytes came with this reading, and no later one makes that undone.
    cases (ih idle).1

/-- A tidy inbox yields packets only if bytes came, and it is tidy again. -/
theorem harvest_of_tidy (network : Network ν) (id : ConnectionId) {connection : Connection}
    (tidy : connection.Tidy) (now : Instant) (state : ν) :
    (harvest network id connection now state).connection.Tidy ∧
      ((harvest network id connection now state).connection.lastActivity = now ∨
        (harvest network id connection now state).packets = [] ∧
          (harvest network id connection now state).connection.lastActivity =
            connection.lastActivity) := by
  -- What is left in the inbox is what the splitting has left, and that is split to the end.
  have left := (Frame.parse_split
    (drain network connection.socket connection.inbox false state).inbox).rest
  refine ⟨congrArg Frame.Split.packets left.split_eq, ?_⟩
  cases active : (drain network connection.socket connection.inbox false state).active with
  | true => exact .inl (by simp [harvest, active])
  | false =>
    -- No byte came, so the inbox is the old one, and it was split before.
    obtain ⟨_, same⟩ := inbox_drain _ _ _ _ _ active
    refine .inr ⟨?_, by simp [harvest, active]⟩
    simp only [harvest, same]
    exact tidy

/-- What reading a connection comes to, if its inbox is tidy. -/
inductive Visited (id : ConnectionId) (connection : Connection) (now : Instant)
    (tcp after : Tcp ν) : Prop
  /-- It stays, even if its peer is done. -/
  | stays (kept : Connection) (packets : List Bytes) (ending : List Event)
    (entry : after.connections.get? id = some kept)
    (queued : after.events = tcp.events ++ (packets.map (.received id) ++ ending))
    (ends : ending = [] ∨ ending = [.disconnected id] ∧ kept.readClosed = true)
    (tidy : kept.Tidy)
    (activity : kept.lastActivity = now ∨
      packets = [] ∧ kept.lastActivity = connection.lastActivity)
  /-- It leaves after a silence, and no packet came in front of that. -/
  | leaves (entry : after.connections.get? id = none)
    (queued : after.events = tcp.events ++ [.timedOut id])
    (silence : connection.lastActivity ≠ now)

/-- Reading a connection comes to one of the two, if silence may last for any time at all. -/
theorem visited_attend (network : Network ν) (now : Instant) {tcp : Tcp ν} {id : ConnectionId}
    {connection : Connection} (known : tcp.connections.get? id = some connection)
    (reading : connection.readClosed = false) (tidy : connection.Tidy)
    (patient : 0 < tcp.idleTimeout.nanoseconds) :
    Visited id connection now tcp (attend network now tcp id) := by
  obtain ⟨tidied, activity⟩ := harvest_of_tidy network id tidy now tcp.network
  -- The connection is known and open for reading, so it is harvested.
  simp only [attend, known, reading, Bool.false_eq_true, if_false]
  generalize harvest network id connection now tcp.network = harvest at tidied activity
  cases harvest.closed with
  -- The peer has ended its stream, or it is silent for too long, or it stays.
  | true =>
    simp only [if_true]
    exact .stays { harvest.connection with readClosed := true } harvest.packets
      [.disconnected id] (by simp [Connections.get?_insert]) (by simp) (.inr ⟨rfl, rfl⟩) tidied
      activity
  | false =>
    simp only [Bool.false_eq_true, if_false]
    split
    · rename_i silent
      -- The silence is longer than nothing, so it did not start in this pump.
      have earlier : harvest.connection.lastActivity ≠ now := by
        intro same
        have none : (now.since harvest.connection.lastActivity).nanoseconds = 0 := by
          rw [same]
          exact Nat.sub_self _
        omega
      obtain ⟨nothing, same⟩ := activity.resolve_left earlier
      exact .leaves (by rw [get?_close, if_pos rfl]) (by rw [events_close, nothing]; simp)
        (same ▸ earlier)
    · exact .stays { harvest.connection with readClosed := false } harvest.packets []
        (by simp [Connections.get?_insert]) (by simp) (.inl rfl) tidied activity

/-- How a connection stands with the transport and its caller: whether the caller knows of it, its
entry, and what is queued of it. -/
inductive Standing (id : ConnectionId) (pump : Option Instant) :
    Bool → Option Connection → List Event → Prop
  | absent : Standing id pump false none []
  /-- It is entered, and the caller is still to be told of it. -/
  | greeting (connection : Connection) (later : List Event) (tidy : connection.Tidy)
    (ungreeted : .connected id ∉ later) (heard : .timedOut id ∉ later)
    (awake : ∀ now, pump = some now → connection.readClosed = false →
      connection.lastActivity = now) :
    Standing id pump false (some connection) (.connected id :: later)
  | joined (connection : Connection) (queued : List Event) (tidy : connection.Tidy)
    (ungreeted : .connected id ∉ queued) (heard : .timedOut id ∉ queued)
    (awake : ∀ now, pump = some now → connection.readClosed = false → queued ≠ [] →
      connection.lastActivity = now) :
    Standing id pump true (some connection) queued
  /-- It is not entered any more, and the caller is still to be told so, and nothing else. -/
  | leaving : Standing id pump true none [.timedOut id]

namespace Standing

variable {id : ConnectionId} {pump : Option Instant} {here : Bool} {entry : Option Connection}
  {queued : List Event}

/-- The caller knows of a connection exactly if it was told of it and is not told of its end. -/
theorem agreed (standing : Standing id pump here entry queued) :
    here = true ↔ .connected id ∉ queued ∧ (entry.isSome = true ∨ .timedOut id ∈ queued) := by
  -- The cases are where a connection can stand, and in each the answer can be read off.
  cases standing with
  | absent => simp
  | greeting => simp
  | joined connection queued tidy ungreeted => simp [ungreeted]
  | leaving => simp

/-- Whoever has no event queued at the start of a pump may be read in it. -/
theorem start (standing : Standing id none here entry []) (now : Instant) :
    Standing id (some now) here entry [] := by
  -- With nothing queued, the connection is unknown or joined.
  cases standing with
  | absent => exact .absent
  | joined connection _ tidy ungreeted heard =>
    exact .joined connection [] tidy ungreeted heard (by simp)

/-- After the pump it does not matter when it was. -/
theorem stop {now : Instant} (standing : Standing id (some now) here entry queued) :
    Standing id none here entry queued := by
  -- Only what is said about the pump's time is dropped, in each of the cases.
  cases standing with
  | absent => exact .absent
  | greeting connection later tidy ungreeted heard =>
    exact .greeting connection later tidy ungreeted heard (by simp)
  | joined connection _ tidy ungreeted heard =>
    exact .joined connection queued tidy ungreeted heard (by simp)
  | leaving => exact .leaving

/-- The inbox of every entry is tidy. -/
theorem tidy {connection : Connection} (standing : Standing id pump here (some connection) queued) :
    connection.Tidy := by
  -- Only the two kinds with an entry are left.
  cases standing with
  | greeting _ _ tidy => exact tidy
  | joined _ _ tidy => exact tidy

/-- A connection is read in a pump. -/
theorem visited {now : Instant} {connection : Connection} {tcp after : Tcp ν}
    (standing : Standing id (some now) here (some connection) (eventsOf id tcp.events))
    (reading : connection.readClosed = false) (visited : Visited id connection now tcp after) :
    Standing id (some now) here (after.connections.get? id) (eventsOf id after.events) := by
  -- What was queued before is named, so that the cases of where it stands can be told apart.
  generalize before : eventsOf id tcp.events = queued at standing
  cases visited with
  | stays kept packets ending entry more ends tidy activity =>
    -- What is queued behind the rest neither greets nor reports a silence.
    have own : eventsOf id (packets.map (.received id) ++ ending) =
        packets.map (.received id) ++ ending := by
      refine eventsOf_of_own fun event member => ?_
      rcases List.mem_append.mp member with packet | last
      · exact own_of_received id packets event packet
      · rcases ends with rfl | ⟨rfl, _⟩
        · simp at last
        · rw [List.mem_singleton.mp last, Event.connection]
    have ungreeted : .connected id ∉ packets.map (.received id) ++ ending := by
      rcases ends with rfl | ⟨rfl, _⟩ <;> simp
    have heard : .timedOut id ∉ packets.map (.received id) ++ ending := by
      rcases ends with rfl | ⟨rfl, _⟩ <;> simp
    rw [entry, more, eventsOf_append, before, own]
    -- The connection goes on as it stood, and it was active in this pump if a packet came.
    cases standing with
    | greeting _ later _ greeted timed awake =>
      refine .greeting kept _ tidy (by simp [greeted, ungreeted]) (by simp [timed, heard]) ?_
      rintro _ ⟨⟩ _
      rcases activity with active | ⟨_, same⟩
      · exact active
      · exact same.trans (awake now rfl reading)
    | joined _ queued _ greeted timed awake =>
      refine .joined kept _ tidy (by simp [greeted, ungreeted]) (by simp [timed, heard]) ?_
      rintro _ ⟨⟩ reads some
      rcases activity with active | ⟨nothing, same⟩
      · exact active
      · -- Nothing was queued now, so it was queued earlier in the pump.
        have still : ending = [] := by
          rcases ends with none | ⟨_, closed⟩
          · exact none
          · simp [closed] at reads
        exact same.trans (awake now rfl reading (by simpa [nothing, still] using some))
  | leaves entry more silence =>
    rw [entry, more, eventsOf_append, before]
    -- A connection whose greeting is queued was taken in during this pump, and so was not silent.
    cases standing with
    | greeting _ later _ greeted timed awake => exact absurd (awake now rfl reading) silence
    | joined _ queued _ greeted timed awake =>
      -- Anything in front of the report would be of this pump, and the connection not silent.
      have nothing : queued = [] := by
        by_contra some
        exact silence (awake now rfl reading some)
      simpa [nothing, eventsOf, Event.connection] using Standing.leaving

/-- The first event is handed out, and the caller acts on it. -/
theorem next {event : Event} {rest : List Event}
    (standing : Standing id none here entry (event :: rest)) (own : event.connection = id)
    (last : event = .disconnected id → rest = []) :
    (here = false ↔ event = .connected id) ∧ (event.isLive = true → entry.isSome = true) ∧
      Standing id none event.isLive (if event = .disconnected id then none else entry) rest := by
  -- The cases are where the connection stands, each of which tells what its queue begins with.
  generalize whole : event :: rest = queued at standing
  cases standing with
  | absent => cases whole
  | greeting connection later tidy ungreeted heard =>
    -- The greeting is handed out first.
    obtain ⟨rfl, rfl⟩ := List.cons.inj whole
    exact ⟨by simp, by simp, .joined connection rest tidy ungreeted heard (by simp)⟩
  | joined connection _ tidy ungreeted heard =>
    subst whole
    -- Neither a greeting nor a silence is queued, so neither is handed out.
    have greetless := List.not_mem_of_not_mem_cons ungreeted
    have timeless := List.not_mem_of_not_mem_cons heard
    subst own
    cases event with
    | connected other => simp [Event.connection] at ungreeted
    | timedOut other => simp [Event.connection] at heard
    | received other packet =>
      exact ⟨by simp, by simp, .joined connection rest tidy greetless timeless (by simp)⟩
    | disconnected other =>
      -- The report of a close is the last that is queued.
      rw [last rfl]
      exact ⟨by simp, by simp [Event.isLive], by simpa [Event.connection] using .absent⟩
  | leaving =>
    -- The report of a silence is alone in the queue, and the entry is gone.
    obtain ⟨rfl, rfl⟩ := List.cons.inj whole
    exact ⟨by simp, by simp [Event.isLive], by simpa using .absent⟩

end Standing

/-- How long silence may last stays what it is, whatever becomes of connections. -/
theorem fixed_idleTimeout : Fixed fun tcp : Tcp ν => tcp.idleTimeout := fun _ _ _ _ _ => rfl

/-- Reading a connection does not change how long silence may last. -/
theorem idleTimeout_attend (network : Network ν) (now : Instant) (tcp : Tcp ν)
    (id : ConnectionId) : (attend network now tcp id).idleTimeout = tcp.idleTimeout :=
  -- It is a field that no event and no reading writes.
  fixed_attend fixed_idleTimeout network now tcp id

/-- Neither does handing out an event. -/
theorem idleTimeout_nextEvent (network : Network ν) (tcp : Tcp ν) :
    (tcp.nextEvent network).2.idleTimeout = tcp.idleTimeout :=
  fixed_nextEvent fixed_idleTimeout network tcp

/-- Neither does closing a connection for the caller. -/
theorem idleTimeout_disconnect (network : Network ν) (id : ConnectionId) (tcp : Tcp ν) :
    (disconnect network id tcp).idleTimeout = tcp.idleTimeout :=
  fixed_disconnect fixed_idleTimeout network id tcp

/-- The transport and a caller that knows of these connections agree on each of them. -/
structure Concord (known : ConnectionId → Bool) (pump : Option Instant) (given : Nat)
    (handed : List Event) (tcp : Tcp ν) : Prop where
  ledger : Ledger given handed tcp
  standing (id : ConnectionId) :
    Standing id pump (known id) (tcp.connections.get? id) (eventsOf id tcp.events)
  patient : 0 < tcp.idleTimeout.nanoseconds

namespace Concord

variable {known : ConnectionId → Bool} {pump : Option Instant} {now : Instant} {given : Nat}
  {handed : List Event} {tcp after : Tcp ν}

/-- The concord depends on the numbers, the entries, the queue and the patience only. -/
theorem congr (concord : Concord known pump given handed tcp) (next : after.nextId = tcp.nextId)
    (connections : after.connections = tcp.connections) (events : after.events = tcp.events)
    (idleTimeout : after.idleTimeout = tcp.idleTimeout) :
    Concord known pump given handed after where
  -- Each part is about one of the four.
  ledger := concord.ledger.congr next connections events
  standing := by rw [connections, events]; exact concord.standing
  patient := by rw [idleTimeout]; exact concord.patient

/-- The caller knows of exactly the connections it was told of that are entered, or of whose silence
it is not told yet. -/
theorem agreed (concord : Concord known pump given handed tcp) (id : ConnectionId) :
    known id = true ↔ .connected id ∉ tcp.events ∧
      (tcp.connections.contains id = true ∨ .timedOut id ∈ tcp.events) := by
  -- Each connection is told by its own standing.
  simpa [eventsOf, Event.connection, Connections.contains] using (concord.standing id).agreed

/-- A peer is taken in, and the caller is still to be told of it. -/
theorem takeIn (concord : Concord known (some now) given handed tcp) (network : Network ν)
    (arrival : Arrival) (few : given + 1 < 2 ^ 64) :
    ∃ later, later ≤ given + 1 ∧
      Concord known (some now) later handed (takeIn network now tcp arrival) := by
  obtain ⟨later, most, ledger⟩ := concord.ledger.takeIn network now arrival few
  refine ⟨later, most, ?_⟩
  -- Whoever is turned away changes neither the entries nor the queue.
  cases refused : tcp.refusal? arrival with
  | some notice =>
    simp only [Tcp.takeIn, refused] at ledger ⊢
    exact ⟨ledger, concord.standing, concord.patient⟩
  | none =>
    simp only [Tcp.takeIn, refused] at ledger ⊢
    refine ⟨ledger, fun id => ?_, concord.patient⟩
    have standing := concord.standing id
    show Standing id _ _ ((tcp.connections.insert ⟨tcp.nextId⟩ _).get? id) _
    rw [Connections.get?_insert, eventsOf_append]
    by_cases same : (⟨tcp.nextId⟩ : ConnectionId) = id
    · -- The number is new, so neither the transport nor the caller has anything under it.
      subst same
      obtain ⟨_, vacant, _, unqueued⟩ := concord.ledger.unheard few
      rw [vacant, unqueued] at standing
      have unknown : known ⟨tcp.nextId⟩ = false := by
        simpa using standing.agreed
      rw [if_pos rfl, unqueued, unknown, List.nil_append]
      have own : eventsOf ⟨tcp.nextId⟩ [.connected ⟨tcp.nextId⟩] = [.connected ⟨tcp.nextId⟩] :=
        eventsOf_of_own (by simp [Event.connection])
      rw [own]
      exact .greeting _ [] (Connection.tidy_of_empty rfl) (by simp) (by simp) (by simp)
    -- Another number finds what it found before.
    · have apart : eventsOf id [.connected ⟨tcp.nextId⟩] = [] :=
        eventsOf_of_ne (by simpa [Event.connection] using same)
      rw [if_neg same, apart, List.append_nil]
      exact standing

/-- A connection is read. -/
theorem attend (concord : Concord known (some now) given handed tcp) (network : Network ν)
    (id : ConnectionId) : Concord known (some now) given handed (attend network now tcp id) where
  ledger := concord.ledger.attend network now id
  patient := by rw [idleTimeout_attend]; exact concord.patient
  standing other := by
    -- A connection that is not read stays as it is, and so do all others.
    by_cases unread : ∀ connection, tcp.connections.get? id = some connection →
        connection.readClosed = true
    · rw [attend_of_unread unread]
      exact concord.standing other
    · simp only [Classical.not_forall, Bool.not_eq_true] at unread
      obtain ⟨connection, entry, reading⟩ := unread
      by_cases same : id = other
      · subst same
        have standing := concord.standing id
        rw [entry] at standing
        exact standing.visited reading
          (visited_attend network now entry reading standing.tidy concord.patient)
      · -- Nothing is queued of any other connection.
        obtain ⟨more, queued, own, entries⟩ := attend_keeps network now tcp id
        have apart : eventsOf other more = [] :=
          eventsOf_of_ne fun event member theirs => same ((own event member).symm.trans theirs)
        rw [entries other same, queued, eventsOf_append, apart, List.append_nil]
        exact concord.standing other

/-- So the two agree at all times until an event is handed out. -/
theorem upkeep (network : Network ν) (known : ConnectionId → Bool) :
    Upkeep network (Concord known) where
  -- All of the upkeep was shown above, one operation at a time.
  congr concord next connections events idleTimeout :=
    concord.congr next connections events idleTimeout
  start concord empty := by
    refine ⟨concord.ledger, fun id => ?_, concord.patient⟩
    have standing := concord.standing id
    rw [empty] at standing ⊢
    exact standing.start _
  takeIn concord arrival few := concord.takeIn network arrival few
  attend concord id := concord.attend network id
  stop concord := ⟨concord.ledger, fun id => (concord.standing id).stop, concord.patient⟩

/-- An event is handed out, and the caller goes on with its connection, or not. -/
theorem next (concord : Concord known none given handed tcp) {network : Network ν} {event : Event}
    (taken : tcp.nextEvent network = (some event, after)) :
    (known event.connection = false ↔ event = .connected event.connection) ∧
      (event.isLive = true → after.connections.contains event.connection = true) ∧
      Concord (Function.update known event.connection event.isLive) none given (handed ++ [event])
        after := by
  -- What is handed out was the first in the queue.
  have front := events_nextEvent network tcp
  have ledger := concord.ledger.nextEvent network
  have patient := idleTimeout_nextEvent network tcp
  rw [taken] at front ledger patient
  obtain ⟨_, _, _, entries⟩ := nextEvent_of_cons network front.symm
  rw [taken] at entries
  -- The event stands in front of all that are queued of its own connection.
  have first : eventsOf event.connection tcp.events =
      event :: eventsOf event.connection after.events := by
    rw [← front]
    simp [eventsOf]
  have standing := concord.standing event.connection
  have course := concord.ledger.course event.connection
  rw [first] at standing course
  obtain ⟨told, live, next⟩ := standing.next rfl fun ends => by
    rw [ends] at course
    exact course.last_of_disconnected
  refine ⟨told, fun going => ?_, ledger, fun id => ?_, by rw [patient]; exact concord.patient⟩
  -- An event that goes on is no report of a close, so its entry stays.
  · have stays : event ≠ .disconnected event.connection := by
      intro ends
      rw [ends] at going
      cases going
    rw [Connections.contains, entries, if_neg stays]
    exact live going
  · rw [entries]
    by_cases own : event.connection = id
    · subst own
      rw [Function.update_self]
      exact next
    · -- The event is none of this connection's, and takes no entry but its own along.
      have differs : event ≠ .disconnected id := fun same => own (by rw [same]; rfl)
      have theirs : eventsOf id tcp.events = eventsOf id after.events := by
        rw [← front]
        simp [eventsOf, own]
      rw [Function.update_of_ne (Ne.symm own), if_neg differs, ← theirs]
      exact concord.standing id

/-- The caller closes a connection that is entered, and knows of it no more. -/
theorem disconnect (concord : Concord known none given handed tcp) (network : Network ν)
    {id : ConnectionId} (entered : tcp.connections.contains id = true) :
    Concord (Function.update known id false) none given handed
      (disconnect network id tcp) where
  ledger := concord.ledger.disconnect network id
  patient := by rw [idleTimeout_disconnect]; exact concord.patient
  standing other := by
    -- Its own entry and its events are gone, and the other connections keep theirs.
    by_cases same : id = other
    · subst same
      obtain ⟨gone, nothing⟩ := disconnect_of_known network entered
      rw [gone, nothing, Function.update_self]
      exact .absent
    · obtain ⟨queued, kept⟩ := disconnect_keeps network same tcp
      rw [kept, queued, Function.update_of_ne (Ne.symm same)]
      exact concord.standing other

end Concord

end Tcp

end CallGate
