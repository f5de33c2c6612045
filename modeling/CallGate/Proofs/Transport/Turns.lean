import CallGate.Proofs.Transport.Polling
import CallGate.Proofs.Transport.Stream
import CallGate.Transport.Wire

/-! Everything a transport does, one thing after the other, and what it reports meanwhile. -/

namespace CallGate

/-- The events that happen on a connection. -/
def eventsOf (id : ConnectionId) (events : List Event) : List Event :=
  events.filter fun event => event.connection = id

/-- The events of a connection in two lots are those in the one and those in the other. -/
@[simp] theorem eventsOf_append (id : ConnectionId) (first last : List Event) :
    eventsOf id (first ++ last) = eventsOf id first ++ eventsOf id last :=
  List.filter_append ..

/-- Events on another connection are none of this one's. -/
theorem eventsOf_of_ne {id : ConnectionId} {events : List Event}
    (apart : ∀ event ∈ events, event.connection ≠ id) : eventsOf id events = [] := by
  -- An event is kept only if it is on the connection, and none is.
  rw [eventsOf, List.filter_eq_nil_iff]
  intro event member
  simpa using apart event member

/-- Events on the connection itself are all its own. -/
theorem eventsOf_of_own {id : ConnectionId} {events : List Event}
    (own : ∀ event ∈ events, event.connection = id) : eventsOf id events = events := by
  -- All of them are on the connection, so the filter drops none.
  rw [eventsOf, List.filter_eq_self]
  intro event member
  simpa using own event member

/-- Packets received on a connection happen on it. -/
theorem own_of_received (id : ConnectionId) (packets : List Bytes) :
    ∀ event ∈ packets.map (Event.received id), event.connection = id := by
  intro event member
  -- Each event was made from one of the packets.
  obtain ⟨packet, _, rfl⟩ := List.mem_map.mp member
  rfl

/-- So does what comes behind them. -/
theorem own_of_ending (id : ConnectionId) (packets : List Bytes) {ending : Event}
    (own : ending.connection = id) :
    ∀ event ∈ packets.map (Event.received id) ++ [ending], event.connection = id := by
  -- The event is one of the packets or the one that comes behind them.
  intro event member
  rcases List.mem_append.mp member with received | last
  · exact own_of_received id packets event received
  · rw [List.mem_singleton.mp last, own]

namespace Tcp

variable {ν : Type}

/-- What is queued, and whose entries change: only events of the kind, and no entry of a connection
that none of them is about. -/
structure Adds (id : ConnectionId) (before after : Tcp ν) (more : List Event) : Prop where
  queued : after.events = before.events ++ more
  untouched (apart : ∀ event ∈ more, event.connection ≠ id) :
    after.connections.get? id = before.connections.get? id

/-- Taking in a peer reports its connection and enters no other. -/
theorem adds_takeIn (network : Network ν) (now : Instant) (tcp : Tcp ν)
    (arrival : Arrival) (id : ConnectionId) :
    ∃ more, Adds id tcp (takeIn network now tcp arrival) more ∧
      ∀ event ∈ more, event = .connected event.connection := by
  -- A peer that is turned away is dropped without a word.
  cases refused : tcp.refusal? arrival with
  | some notice =>
    refine ⟨[], ?_, by simp⟩
    simp only [takeIn, refused]
    exact ⟨by simp, fun _ => rfl⟩
  | none =>
    refine ⟨[.connected ⟨tcp.nextId⟩], ?_, by simp [Event.connection]⟩
    simp only [takeIn, refused]
    refine ⟨rfl, fun apart => ?_⟩
    -- The new entry is that of the number just given out, which the report names.
    have differs : (⟨tcp.nextId⟩ : ConnectionId) ≠ id := apart _ (List.mem_singleton_self _)
    rw [Connections.get?_insert, if_neg differs]

/-- So does taking in everyone who waits. -/
theorem adds_accept (network : Network ν) (now : Instant) (tcp : Tcp ν) (id : ConnectionId) :
    ∃ more, Adds id tcp (tcp.accept network now) more ∧
      ∀ event ∈ more, event = .connected event.connection := by
  -- Peers are taken in one by one, and each adds to what those before it added.
  have all (peers : List Arrival) (tcp : Tcp ν) :
      ∃ more, Adds id tcp (peers.foldl (takeIn network now) tcp) more ∧
        ∀ event ∈ more, event = .connected event.connection := by
    induction peers generalizing tcp with
    | nil => exact ⟨[], ⟨by simp, fun _ => rfl⟩, by simp⟩
    | cons peer peers ih =>
      obtain ⟨first, added, kind⟩ := adds_takeIn network now tcp peer id
      obtain ⟨later, others, kinds⟩ := ih (takeIn network now tcp peer)
      refine ⟨first ++ later, ⟨?_, fun apart => ?_⟩, ?_⟩
      · rw [List.foldl_cons, others.queued, added.queued, List.append_assoc]
      · rw [List.foldl_cons, others.untouched fun event member =>
            apart event (List.mem_append_right _ member),
          added.untouched fun event member => apart event (List.mem_append_left _ member)]
      · intro event member
        rcases List.mem_append.mp member with now | after
        · exact kind event now
        · exact kinds event after
  by_cases accepting : tcp.accepting now
  · obtain ⟨more, added, kind⟩ := all (network.arrivals tcp.network).1.peers
      { tcp with network := (network.arrivals tcp.network).2, acceptPausedUntil := none }
    refine ⟨more, ?_, kind⟩
    -- A failing listener only pauses what comes later.
    cases failed : (network.arrivals tcp.network).1.failure <;>
      simp only [accept, accepting, if_true, failed] <;> exact ⟨added.queued, added.untouched⟩
  -- While accepting pauses, nobody is asked for.
  · refine ⟨[], ?_, by simp⟩
    simp only [accept, accepting, Bool.false_eq_true, if_false]
    exact ⟨by simp, fun _ => rfl⟩

/-- Reading a connection reports nothing of any other, and leaves their entries alone. -/
theorem attend_keeps (network : Network ν) (now : Instant) (tcp : Tcp ν) (other : ConnectionId) :
    ∃ more, (attend network now tcp other).events = tcp.events ++ more ∧
      (∀ event ∈ more, event.connection = other) ∧ ∀ id, other ≠ id →
        (attend network now tcp other).connections.get? id = tcp.connections.get? id := by
  -- Whatever comes of the reading is entered for the connection that is read.
  have entered (kept : Connection) {id : ConnectionId} (differs : other ≠ id) :
      (tcp.connections.insert other kept).get? id = tcp.connections.get? id := by
    rw [Connections.get?_insert, if_neg differs]
  by_cases unread : ∀ connection, tcp.connections.get? other = some connection →
      connection.readClosed = true
  · rw [attend_of_unread unread]
    exact ⟨[], by simp, by simp, fun _ _ => rfl⟩
  · simp only [Classical.not_forall, Bool.not_eq_true] at unread
    obtain ⟨connection, known, reading⟩ := unread
    simp only [attend, known, reading, Bool.false_eq_true, if_false]
    -- How much was read does not matter here, so the outcome of the reading is left open.
    generalize harvest network other connection now tcp.network = harvest
    cases harvest.closed with
    -- The peer is done, and the entry stays until the report of it is taken.
    | true =>
      simp only [if_true]
      exact ⟨harvest.packets.map (.received other) ++ [.disconnected other],
        by rw [List.append_assoc], own_of_ending other _ rfl, fun _ differs => entered _ differs⟩
    | false =>
      simp only [Bool.false_eq_true, if_false]
      -- Silence for too long forgets the connection on the spot.
      split
      · refine ⟨harvest.packets.map (.received other) ++ [.timedOut other], ?_,
          own_of_ending other _ rfl, fun id differs => ?_⟩
        · rw [events_close, List.append_assoc]
        · rw [get?_close, if_neg differs]
          exact entered _ differs
      · exact ⟨harvest.packets.map (.received other), rfl, own_of_received other _,
          fun _ differs => entered _ differs⟩

/-- Taking the first event takes it off the queue. -/
theorem events_nextEvent (network : Network ν) (tcp : Tcp ν) :
    (tcp.nextEvent network).1.toList ++ (tcp.nextEvent network).2.events = tcp.events := by
  unfold nextEvent
  -- The queue is empty, or a parting stands in front and takes its entry along, or something
  -- else.
  split
  · rename_i none
    simp [none]
  · rename_i id rest first
    rw [events_close, first]
    rfl
  · rename_i event rest _ first
    rw [first]
    rfl

/-- Taking the first event leaves the entry of a connection alone, unless it reports that its peer
is done. -/
theorem get?_nextEvent (network : Network ν) (tcp : Tcp ν) (id : ConnectionId) :
    (tcp.nextEvent network).2.connections.get? id = tcp.connections.get? id ∨
      .disconnected id ∈ tcp.events ∧ (tcp.nextEvent network).2.connections.get? id = none := by
  unfold nextEvent
  -- The cases are an empty queue, a parting in front, and anything else in front.
  split
  · exact .inl rfl
  · rename_i other rest first
    -- Only the report of a parting takes an entry away, and it is that of the one who left.
    by_cases same : other = id
    · exact .inr ⟨by rw [first, same]; exact List.mem_cons_self .., by rw [get?_close, if_pos same]⟩
    · exact .inl (by rw [get?_close, if_neg same])
  · exact .inl rfl

/-- Sending touches neither the queue nor any entry. -/
theorem send_keeps (network : Network ν) (id : ConnectionId) (packet : Bytes) (tcp : Tcp ν) :
    (send network id packet tcp).2.events = tcp.events ∧
      (send network id packet tcp).2.connections = tcp.connections := by
  unfold send
  -- A packet that cannot be sent is refused, and one that can only moves the machine on.
  split
  · exact ⟨rfl, rfl⟩
  · split
    · exact ⟨rfl, rfl⟩
    · split <;> exact ⟨rfl, rfl⟩

/-- Disconnecting another connection takes away no event of this one, and not its entry. -/
theorem disconnect_keeps (network : Network ν) {other id : ConnectionId} (differs : other ≠ id)
    (tcp : Tcp ν) : eventsOf id (disconnect network other tcp).events = eventsOf id tcp.events ∧
      (disconnect network other tcp).connections.get? id = tcp.connections.get? id := by
  -- Disconnecting searches the queue only if there is an entry.
  by_cases known : tcp.connections.contains other
  · simp only [disconnect, known, if_true]
    rw [get?_close, if_neg differs, events_close]
    refine ⟨?_, rfl⟩
    rw [eventsOf, eventsOf, List.filter_filter]
    -- Whatever happens on this connection does not happen on the other one.
    refine List.filter_congr fun event _ => ?_
    by_cases own : event.connection = id
    · simp [own, Ne.symm differs]
    · simp [own]
  · simp [disconnect, known]

/-- One thing that a transport does, or that happens to it. -/
inductive Turn (ν : Type) where
  /-- It takes in everyone who waits. -/
  | accept (now : Instant)
  /-- It reads one connection. -/
  | attend (now : Instant) (id : ConnectionId)
  /-- Its first event is taken. -/
  | next
  | send (id : ConnectionId) (packet : Bytes)
  | disconnect (id : ConnectionId)
  /-- Anything happens on the machine: peers write, and time passes. -/
  | world (change : ν → ν)

/-- What one turn hands out and leaves, with every reading noted. -/
def turn (network : Network ν) (turn : Turn ν) (tcp : Tcp (ν × List Reading)) :
    Option Event × Tcp (ν × List Reading) :=
  match turn with
  | .accept now => (none, tcp.accept network.logged now)
  | .attend now id => (none, attend network.logged now tcp id)
  | .next => tcp.nextEvent network.logged
  | .send id packet => (none, (send network.logged id packet tcp).2)
  | .disconnect id => (none, disconnect network.logged id tcp)
  | .world change => (none, { tcp with network := (change tcp.network.1, tcp.network.2) })

/-- What turns hand out and leave, one after the other. -/
def run (network : Network ν) : List (Turn ν) → Tcp (ν × List Reading) →
    List Event × Tcp (ν × List Reading)
  | [], tcp => ([], tcp)
  | first :: turns, tcp =>
    let (event?, tcp) := turn network first tcp
    let (events, tcp) := run network turns tcp
    (event?.toList ++ events, tcp)

/-- What turns hand out and leave comes behind what those before them did. -/
theorem run_append (network : Network ν) (first last : List (Turn ν))
    (tcp : Tcp (ν × List Reading)) :
    run network (first ++ last) tcp =
      ((run network first tcp).1 ++ (run network last (run network first tcp).2).1,
        (run network last (run network first tcp).2).2) := by
  -- The turns are taken one by one, and what they hand out is collected.
  induction first generalizing tcp with
  | nil => rfl
  | cons turn turns ih => simp [run, ih]

/-- What a turn reads from a connection. -/
def heardIn (network : Network ν) (id : ConnectionId) (first : Turn ν)
    (tcp : Tcp (ν × List Reading)) : List Reading :=
  match first with
  | .attend _ other =>
    if other = id then (turn network first tcp).2.network.2.drop tcp.network.2.length else []
  | _ => []

/-- What turns read from a connection, first to last. -/
def heard (network : Network ν) (id : ConnectionId) : List (Turn ν) → Tcp (ν × List Reading) →
    List Reading
  | [], _ => []
  | first :: turns, tcp =>
    heardIn network id first tcp ++ heard network id turns (turn network first tcp).2

/-- Everything reported of a connection in the course of turns: what was handed out, and what is
still queued. -/
def reports (network : Network ν) (id : ConnectionId) (turns : List (Turn ν))
    (tcp : Tcp (ν × List Reading)) : List Event :=
  eventsOf id ((run network turns tcp).1 ++ (run network turns tcp).2.events)

/-- Where a connection stands after some readings, and what was reported of it. -/
inductive Reported (id : ConnectionId) (tcp : Tcp (ν × List Reading)) (readings : List Reading) :
    List Event → Prop
  | going (packets : List Bytes) (connection : Connection)
    (known : tcp.connections.get? id = some connection)
    (reading : connection.readClosed = false)
    (parse : Frame.Parse (readings.flatMap Reading.bytes) packets connection.inbox none)
    (more : readings.any Reading.isLast = false) :
    Reported id tcp readings (.connected id :: packets.map (.received id))
  | closed (packets : List Bytes) (rest : Bytes) (invalid : Option Nat)
    (unread : ∀ connection, tcp.connections.get? id = some connection →
      connection.readClosed = true)
    (parse : Frame.Parse (readings.flatMap Reading.bytes) packets rest invalid)
    (finished : invalid.isSome ∨ readings.any Reading.isLast) :
    Reported id tcp readings (.connected id :: packets.map (.received id) ++ [.disconnected id])
  | timedOut (packets : List Bytes) (rest : Bytes) (gone : tcp.connections.get? id = none)
    (parse : Frame.Parse (readings.flatMap Reading.bytes) packets rest none)
    (more : readings.any Reading.isLast = false) :
    Reported id tcp readings (.connected id :: packets.map (.received id) ++ [.timedOut id])

namespace Reported

variable {id : ConnectionId} {tcp : Tcp (ν × List Reading)} {readings : List Reading}
  {events : List Event}

/-- Where a connection stands depends on nothing but its entry. -/
theorem congr (reported : Reported id tcp readings events) {after : Tcp (ν × List Reading)}
    (same : after.connections.get? id = tcp.connections.get? id) :
    Reported id after readings events := by
  -- Every rule asks the transport for the entry and for nothing else.
  cases reported with
  | going packets connection known reading parse more =>
    exact .going packets connection (by rw [same, known]) reading parse more
  | closed packets rest invalid unread parse finished =>
    exact .closed packets rest invalid (by rw [same]; exact unread) parse finished
  | timedOut packets rest gone parse more =>
    exact .timedOut packets rest (by rw [same, gone]) parse more

/-- A connection whose close was reported can be forgotten. -/
theorem forgotten (reported : Reported id tcp readings events)
    (announced : .disconnected id ∈ events) {after : Tcp (ν × List Reading)}
    (gone : after.connections.get? id = none) : Reported id after readings events := by
  -- Of the three, only a closed connection was reported as disconnected.
  cases reported with
  | going packets connection => simp at announced
  | closed packets rest invalid unread parse finished =>
    exact .closed packets rest invalid (by simp [gone]) parse finished
  | timedOut packets rest => simp at announced

/-- Whatever was reported of a connection starts with its number being given out. -/
theorem connected_mem (reported : Reported id tcp readings events) : .connected id ∈ events := by
  -- In each of the three, the report starts with it.
  cases reported <;> simp

/-- Attending the connection takes it as far as its readings go. -/
theorem attended (network : Network ν) (reported : Reported id tcp readings events)
    (now : Instant) :
    ∃ more, (attend network.logged now tcp id).events = tcp.events ++ more ∧
      (∀ event ∈ more, event.connection = id) ∧
      Reported id (attend network.logged now tcp id)
        (readings ++ (attend network.logged now tcp id).network.2.drop tcp.network.2.length)
        (events ++ more) := by
  -- Once its close is reported, nothing is read any more.
  have idle (unread : ∀ connection, tcp.connections.get? id = some connection →
      connection.readClosed = true) :
      ∃ more, (attend network.logged now tcp id).events = tcp.events ++ more ∧
        (∀ event ∈ more, event.connection = id) ∧
        Reported id (attend network.logged now tcp id)
          (readings ++ (attend network.logged now tcp id).network.2.drop tcp.network.2.length)
          (events ++ more) := by
    rw [attend_of_unread unread]
    refine ⟨[], by simp, by simp, ?_⟩
    rw [List.drop_length, List.append_nil, List.append_nil]
    exact reported
  -- Only a connection that is still going is read, and its parse goes on from what was left.
  cases reported with
  | closed packets rest invalid unread => exact idle unread
  | timedOut packets rest gone => exact idle (by simp [gone])
  | going packets connection known reading parse more =>
    obtain ⟨taken, _, logged, came⟩ := attended_attend network now known reading
    -- Parsing what was read in two goes is parsing it in one, as the inbox holds the rest.
    have joined : (readings ++ taken).flatMap Reading.bytes =
        readings.flatMap Reading.bytes ++ taken.flatMap Reading.bytes := List.flatMap_append
    rw [logged, List.drop_left]
    cases came with
    | going others kept after next still queued known reading =>
      refine ⟨others.map (.received id), queued, own_of_received id others, ?_⟩
      rw [List.cons_append, ← List.map_append]
      exact .going _ kept known reading (joined ▸ parse.append next)
        (by rw [List.any_append, more, still, Bool.false_or])
    | closed others kept invalid after next finished queued known unread =>
      refine ⟨others.map (.received id) ++ [.disconnected id], by rw [queued, List.append_assoc],
        own_of_ending id others rfl, ?_⟩
      rw [← List.append_assoc, List.cons_append, ← List.map_append]
      exact .closed _ kept.inbox invalid (by simp [known, unread]) (joined ▸ parse.append next)
        (by rw [List.any_append, more, Bool.false_or]; exact finished)
    | timedOut others rest after next still queued gone =>
      refine ⟨others.map (.received id) ++ [.timedOut id], by rw [queued, List.append_assoc],
        own_of_ending id others rfl, ?_⟩
      rw [← List.append_assoc, List.cons_append, ← List.map_append]
      exact .timedOut _ rest gone (joined ▸ parse.append next)
        (by rw [List.any_append, more, still, Bool.false_or])

/-- A turn that does not disconnect the connection takes it as far as its readings go, unless its
number is given to another one. -/
theorem after_turn (network : Network ν) (reported : Reported id tcp readings events)
    (first : Turn ν)
    (spared : first ≠ .disconnect id)
    (announced : .disconnected id ∈ tcp.events → .disconnected id ∈ events) :
    ∃ more, eventsOf id ((turn network first tcp).1.toList ++ (turn network first tcp).2.events) =
        eventsOf id tcp.events ++ more ∧
      (.connected id ∉ more → Reported id (turn network first tcp).2
        (readings ++ heardIn network id first tcp) (events ++ more)) := by
  -- The cases are the turns, and only reading the connection itself takes it further.
  cases first with
  | accept now =>
    obtain ⟨more, added, kind⟩ := adds_accept network.logged now tcp id
    refine ⟨eventsOf id more, ?_, fun fresh => ?_⟩
    · simp [turn, added.queued]
    · -- Taking peers in reports new numbers, and this connection's number is not among them.
      have apart : ∀ event ∈ more, event.connection ≠ id := by
        intro event member own
        refine fresh (List.mem_filter.mpr ⟨?_, by simp [Event.connection]⟩)
        rw [← own, ← kind event member]
        exact member
      rw [eventsOf_of_ne apart]
      simp only [heardIn, List.append_nil]
      exact reported.congr (added.untouched apart)
  | attend now other =>
    -- Reading the connection itself moves it on, and reading another one does not concern it.
    by_cases same : other = id
    · subst same
      obtain ⟨more, queued, own, reached⟩ := reported.attended network now
      refine ⟨more, ?_, fun _ => ?_⟩
      · simp [turn, queued, eventsOf_of_own own]
      · simpa [heardIn, turn] using reached
    · obtain ⟨more, queued, others, untouched⟩ := attend_keeps network.logged now tcp other
      have apart : ∀ event ∈ more, event.connection ≠ id := by
        intro event member
        rw [others event member]
        exact same
      refine ⟨[], ?_, fun _ => ?_⟩
      · simp [turn, queued, eventsOf_of_ne apart]
      · rw [heardIn, if_neg same, List.append_nil, List.append_nil]
        exact reported.congr (untouched id same)
  | next =>
    refine ⟨[], ?_, fun _ => ?_⟩
    · rw [turn, events_nextEvent, List.append_nil]
    · simp only [heardIn, List.append_nil]
      -- The entry goes only when the report of the parting is handed out, and it stands reported.
      rcases get?_nextEvent network.logged tcp id with kept | ⟨queued, gone⟩
      · exact reported.congr kept
      · exact reported.forgotten (announced queued) gone
  | send other packet =>
    obtain ⟨queued, kept⟩ := send_keeps network.logged other packet tcp
    refine ⟨[], ?_, fun _ => ?_⟩
    · simp [turn, queued]
    · simp only [heardIn, List.append_nil]
      exact reported.congr (by rw [turn, kept])
  | disconnect other =>
    have differs : other ≠ id := fun same => spared (by rw [same])
    obtain ⟨queued, kept⟩ := disconnect_keeps network.logged differs tcp
    refine ⟨[], ?_, fun _ => ?_⟩
    · simp [turn, queued]
    · simp only [heardIn, List.append_nil]
      exact reported.congr kept
  | world change =>
    refine ⟨[], by simp [turn], fun _ => ?_⟩
    simp only [heardIn, List.append_nil]
    exact reported.congr rfl

end Reported

/-- A turn that does not disconnect a connection only adds to what was reported of it. -/
theorem turn_adds (network : Network ν) {id : ConnectionId} (first : Turn ν)
    (tcp : Tcp (ν × List Reading)) (spared : first ≠ .disconnect id) :
    ∃ more, eventsOf id ((turn network first tcp).1.toList ++ (turn network first tcp).2.events) =
      eventsOf id tcp.events ++ more := by
  -- Accepting and reading queue more, handing out moves events, and the rest leaves them alone.
  cases first with
  | accept now =>
    obtain ⟨more, added, _⟩ := adds_accept network.logged now tcp id
    exact ⟨eventsOf id more, by simp [turn, added.queued]⟩
  | attend now other =>
    obtain ⟨more, queued, _⟩ := attend_keeps network.logged now tcp other
    exact ⟨eventsOf id more, by simp [turn, queued]⟩
  | next => exact ⟨[], by rw [turn, events_nextEvent, List.append_nil]⟩
  | send other packet =>
    exact ⟨[], by simp [turn, (send_keeps network.logged other packet tcp).1]⟩
  | disconnect other =>
    have differs : other ≠ id := fun same => spared (by rw [same])
    exact ⟨[], by simp [turn, (disconnect_keeps network.logged differs tcp).1]⟩
  | world change => exact ⟨[], by simp [turn]⟩

/-- The reports of turns are those of the first and then those of the others. -/
theorem reports_cons (network : Network ν) (id : ConnectionId) (first : Turn ν)
    (turns : List (Turn ν)) (tcp : Tcp (ν × List Reading)) :
    reports network id (first :: turns) tcp =
      eventsOf id (turn network first tcp).1.toList ++
        reports network id turns (turn network first tcp).2 := by
  -- What the first turn hands out comes before what the others do, and so it does when filtered.
  simp [reports, run, List.append_assoc]

/-- Turns that do not disconnect a connection only add to what was reported of it. -/
theorem exists_reports (network : Network ν) {id : ConnectionId} (turns : List (Turn ν))
    (tcp : Tcp (ν × List Reading)) (spared : .disconnect id ∉ turns) :
    ∃ more, reports network id turns tcp = eventsOf id tcp.events ++ more := by
  -- What one turn adds stays reported while the later ones add theirs.
  induction turns generalizing tcp with
  | nil => exact ⟨[], by simp [reports, run]⟩
  | cons first turns ih =>
    rw [List.mem_cons, not_or] at spared
    obtain ⟨now, added⟩ := turn_adds network first tcp (Ne.symm spared.1)
    obtain ⟨later, others⟩ := ih (turn network first tcp).2 spared.2
    refine ⟨now ++ later, ?_⟩
    rw [reports_cons, others, ← List.append_assoc, ← eventsOf_append, added, List.append_assoc]

/-- Turns that do not disconnect a connection take it as far as its readings go. -/
theorem Reported.run {network : Network ν} {id : ConnectionId} {tcp : Tcp (ν × List Reading)}
    {readings : List Reading} {earlier : List Event} (turns : List (Turn ν))
    (reported : Reported id tcp readings (earlier ++ eventsOf id tcp.events))
    (spared : .disconnect id ∉ turns)
    (once : (earlier ++ reports network id turns tcp).count (.connected id) ≤ 1) :
    Reported id (run network turns tcp).2 (readings ++ heard network id turns tcp)
      (earlier ++ reports network id turns tcp) := by
  -- The induction follows the turns. What was handed out so far is kept in front, since the
  -- reports cover both what was handed out and what is queued.
  induction turns generalizing tcp readings earlier with
  | nil => simpa [Tcp.run, heard, reports] using reported
  | cons first turns ih =>
    rw [List.mem_cons, not_or] at spared
    -- A parting that is still queued counts among the reports, so its entry may go.
    have announced (queued : .disconnected id ∈ tcp.events) :
        .disconnected id ∈ earlier ++ eventsOf id tcp.events :=
      List.mem_append_right _ (List.mem_filter.mpr ⟨queued, by simp [Event.connection]⟩)
    obtain ⟨more, added, reached⟩ := reported.after_turn network first
      (Ne.symm spared.1) announced
    -- What the turn adds moves from the queue to the part that was handed out.
    have shift : earlier ++ eventsOf id tcp.events ++ more =
        earlier ++ eventsOf id (turn network first tcp).1.toList ++
          eventsOf id (turn network first tcp).2.events := by
      rw [List.append_assoc, ← added, eventsOf_append, ← List.append_assoc]
    rw [reports_cons, ← List.append_assoc] at once ⊢
    -- The number was given out once already, so the turn does not give it out again.
    have fresh : .connected id ∉ more := by
      obtain ⟨later, others⟩ := exists_reports network turns (turn network first tcp).2 spared.2
      rw [others, ← List.append_assoc, ← shift, List.count_append, List.count_append] at once
      have given := List.count_pos_iff.mpr reported.connected_mem
      exact List.count_eq_zero.mp (by omega)
    have next := reached fresh
    rw [shift] at next
    have rest := ih next spared.2 once
    rw [heard, ← List.append_assoc]
    exact rest

section Polling

variable {network : Network ν} {tcp middle after : Tcp (ν × List Reading)}
  {first last : List Event}

/-- Turns that disconnect nobody hand out events and leave a state. -/
def Takes (network : Network ν) (tcp : Tcp (ν × List Reading)) (events : List Event)
    (after : Tcp (ν × List Reading)) : Prop :=
  ∃ turns, (∀ id, .disconnect id ∉ turns) ∧ run network turns tcp = (events, after)

namespace Takes

/-- No turn hands out nothing and leaves everything as it is. -/
theorem refl (network : Network ν) (tcp : Tcp (ν × List Reading)) : Takes network tcp [] tcp :=
  -- No turns are taken, and so none disconnects.
  ⟨[], by simp, rfl⟩

/-- A turn takes a state to what it leaves. -/
theorem one (first : Turn ν) (tcp : Tcp (ν × List Reading))
    (spared : ∀ id, first ≠ .disconnect id) :
    Takes network tcp (turn network first tcp).1.toList (turn network first tcp).2 :=
  -- The list of turns is the one turn.
  ⟨[first], fun id => by simpa using (spared id).symm, by simp [run]⟩

/-- Turns can follow turns. -/
theorem trans (front : Takes network tcp first middle) (back : Takes network middle last after) :
    Takes network tcp (first ++ last) after := by
  -- The turns of both are taken one behind the other.
  obtain ⟨turns, spared, ran⟩ := front
  obtain ⟨others, safe, went⟩ := back
  exact ⟨turns ++ others, fun id => by simp [spared id, safe id], by simp [run_append, ran, went]⟩

end Takes

/-- Asking for the time is a turn of the machine. -/
theorem takes_clock (network : Network ν) (tcp : Tcp (ν × List Reading)) :
    Takes network tcp [] (tcp.clock network.logged).2 :=
  -- The clock moves the machine and nothing else.
  Takes.one (.world fun state => (network.now state).2) tcp (by simp)

/-- Reading some connections is a turn for each. -/
theorem run_attends (network : Network ν) (now : Instant) (ids : List ConnectionId)
    (tcp : Tcp (ν × List Reading)) : run network (ids.map (.attend now)) tcp =
      ([], ids.foldl (attend network.logged now) tcp) := by
  -- Each connection is read in what reading those before it has left.
  induction ids generalizing tcp with
  | nil => rfl
  | cons id ids ih =>
    simp only [List.map_cons, run, turn, ih, List.foldl_cons]
    rfl

/-- The turns that a pump is made of: it looks at the clock, takes everyone in, and then reads
every connection. -/
def pumping (network : Network ν) (tcp : Tcp (ν × List Reading)) : List (Turn ν) :=
  let (now, clocked) := tcp.clock network.logged
  .world (fun state => (network.now state).2) :: .accept now ::
    (clocked.accept network.logged now).connections.keys.map (.attend now)

/-- A pump is the turns that it is made of. -/
theorem run_pumping (network : Network ν) (tcp : Tcp (ν × List Reading)) :
    run network (pumping network tcp) tcp = ([], tcp.pump network.logged) := by
  -- The clock, the accepting and the readings are turns in this order.
  simp only [pumping, run, turn, run_attends]
  rfl

/-- A pump takes turns and hands out nothing. -/
theorem takes_pump (network : Network ν) (tcp : Tcp (ν × List Reading)) :
    Takes network tcp [] (tcp.pump network.logged) :=
  -- A pump disconnects nobody for the caller.
  ⟨pumping network tcp, by simp [pumping], run_pumping network tcp⟩

/-- The event that a poll hands out, if it hands out one. -/
def handedOut : Except TransportError (Option Event) → List Event
  | .ok event? => event?.toList
  | .error _ => []

/-- Every poll is made of turns. -/
theorem takes_poll (network : Network ν) (wait : Duration) (tcp : Tcp (ν × List Reading)) :
    Takes network tcp (handedOut (poll network.logged wait tcp).1)
      (poll network.logged wait tcp).2 := by
  -- Until the last state is reached, turns are taken and nothing is handed out.
  obtain ⟨last, reached, ended⟩ := ended_poll network.logged (Takes network tcp [])
    (fun middle front => front.trans (takes_clock network middle))
    (fun middle _ front => front.trans
      (.one (.world fun state => network.wait _ _ _ state) middle (by simp)))
    (fun middle _ front => front.trans (takes_pump network middle)) wait (.refl network tcp)
  generalize poll network.logged wait tcp = result at ended
  obtain ⟨outcome, after⟩ := result
  cases ended with
  | @event event after taken =>
    have handing : Takes network last _ _ := .one .next last (by simp)
    rw [turn, taken] at handing
    exact reached.trans handing
  | idle => exact reached
  | failed error => exact reached

end Polling

/-- A connection has just been taken in: nothing was read from it, and nothing but its number
reported. -/
structure Admitted (tcp : Tcp ν) (id : ConnectionId) : Prop where
  fresh : ∃ connection, tcp.connections.get? id = some connection ∧
    connection.inbox = [] ∧ connection.readClosed = false
  queued : eventsOf id tcp.events = [.connected id]

/-- Every peer that is not turned away is admitted under a number that no event carries yet. -/
theorem admitted_takeIn (network : Network ν) (now : Instant) (tcp : Tcp ν) (arrival : Arrival)
    (welcome : tcp.refusal? arrival = none) (unused : eventsOf ⟨tcp.nextId⟩ tcp.events = []) :
    Admitted (takeIn network now tcp arrival) ⟨tcp.nextId⟩ := by
  -- The peer is entered with an empty inbox, and its number is reported.
  simp only [takeIn, welcome]
  refine ⟨⟨_, by rw [Connections.get?_insert, if_pos rfl], rfl, rfl⟩, ?_⟩
  rw [eventsOf_append, unused]
  simp [eventsOf, Event.connection]

/-- Whatever was reported of a connection is the parse of what was read from it. -/
theorem Reported.exists_parse {id : ConnectionId} {tcp : Tcp (ν × List Reading)}
    {readings : List Reading} {events : List Event} (reported : Reported id tcp readings events) :
    ∃ packets rest invalid ending,
      Frame.Parse (readings.flatMap Reading.bytes) packets rest invalid ∧
      events = .connected id :: packets.map (.received id) ++ ending ∧
      (ending = [] ∨ ending = [.disconnected id] ∨ ending = [.timedOut id]) ∧
      (ending = [.disconnected id] ↔ invalid.isSome ∨ readings.any Reading.isLast) := by
  -- The cases are where the connection can stand, and each tells how its reports end.
  cases reported with
  | going packets connection known reading parse more =>
    exact ⟨packets, _, none, [], parse, by simp, .inl rfl, by simp [more]⟩
  | closed packets rest invalid unread parse finished =>
    exact ⟨packets, rest, invalid, _, parse, rfl, .inr (.inl rfl), by simpa using finished⟩
  | timedOut packets rest gone parse more =>
    exact ⟨packets, rest, none, _, parse, rfl, .inr (.inr rfl), by simp [more]⟩

/-- However the stream of a connection is cut into readings, pumps and polls, what is reported of
the connection is the greedy parse of the stream.

Nothing is assumed of the machine, and the other connections may do anything meanwhile. -/
theorem reports_of_stream (network : Network ν) (turns : List (Turn ν))
    (tcp : Tcp (ν × List Reading)) (id : ConnectionId) (admitted : Admitted tcp id)
    (spared : .disconnect id ∉ turns)
    (once : (reports network id turns tcp).count (.connected id) ≤ 1) :
    (∃ packets rest invalid ending,
      -- What is not read yet makes no difference, if there is none or an invalid header came.
      (∀ unread, unread = [] ∨ invalid.isSome → Frame.Parse
        ((heard network id turns tcp).flatMap Reading.bytes ++ unread) packets (rest ++ unread)
        invalid) ∧
      reports network id turns tcp = .connected id :: packets.map (.received id) ++ ending ∧
      (ending = [] ∨ ending = [.disconnected id] ∨ ending = [.timedOut id]) ∧
      (ending = [.disconnected id] ↔
        invalid.isSome ∨ (heard network id turns tcp).any Reading.isLast) ∧
      (∀ sent frames,
        List.Forall₂ (fun packet frame => Frame.encode packet = .ok frame) sent frames →
        (heard network id turns tcp).flatMap Reading.bytes = frames.flatten →
        packets = sent ∧ invalid = none)) ∧
    -- Every poll is made of such turns.
    (∀ wait before, Takes network before (handedOut (poll network.logged wait before).1)
      (poll network.logged wait before).2) ∧
    -- Framing refuses exactly the lengths that no packet can have.
    (∀ packet, (∃ frame, Frame.encode packet = .ok frame) ↔
      1 ≤ packet.length ∧ packet.length ≤ 4096) := by
  refine ⟨?_, takes_poll network, fun packet => Frame.exists_encode_iff⟩
  obtain ⟨⟨connection, known, empty, reading⟩, queued⟩ := admitted
  -- At the start nothing was read, and the empty stream has no frame.
  have start : Reported id tcp [] ([] ++ eventsOf id tcp.events) := by
    rw [queued]
    exact .going [] connection known reading (by rw [empty]; exact .short [] (by decide)) rfl
  -- The turns take the connection as far as its readings go, wherever that is.
  obtain ⟨packets, rest, invalid, ending, parse, reported, ends, finished⟩ :=
    (start.run turns spared (by simpa using once)).exists_parse
  simp only [List.nil_append] at parse reported finished
  refine ⟨packets, rest, invalid, ending, ?_, reported, ends, finished, ?_⟩
  · -- Bytes that were left in the socket behind a bad header would not have been parsed either.
    rintro unread (rfl | bad)
    · rwa [List.append_nil, List.append_nil]
    · obtain ⟨length, rfl⟩ := Option.isSome_iff_exists.mp bad
      exact parse.append_of_invalid unread
  · intro sent frames encoded whole
    -- A stream has one parse, and that of encoded packets is known.
    have found := Frame.parse_iff.mp (Frame.parse_encoded encoded)
    rw [← whole, Frame.parse_iff.mp parse, Frame.Split.mk.injEq] at found
    exact ⟨found.1, found.2.2⟩

/-- A frame that comes in two readings, with an invalid header behind it. -/
theorem reports_of_cut_frame :
    let peer : SocketAddress := { ip := .v4 ⟨127, 0, 0, 1⟩, port := 40000 }
    let wire : Wire := { streams := [{ client := peer }] }
    let tcp := takeIn Wire.network.logged ⟨0⟩
      { network := (wire, []), maxClients := 4, idleTimeout := ⟨1000⟩, patience := 3 }
      { socket := 0, peer }
    let turns : List (Turn Wire) := [.world fun wire => wire.clientWrite 0 [2, 0, 0],
      .attend ⟨0⟩ ⟨1⟩, .next, .world fun wire => wire.clientWrite 0 [0, 7, 8, 0, 0, 0, 0],
      .attend ⟨0⟩ ⟨1⟩]
    Admitted tcp ⟨1⟩ ∧
      reports Wire.network ⟨1⟩ turns tcp =
        [.connected ⟨1⟩, .received ⟨1⟩ [7, 8], .disconnected ⟨1⟩] ∧
      ∃ packets rest invalid ending,
        Frame.Parse ((heard Wire.network ⟨1⟩ turns tcp).flatMap Reading.bytes ++ []) packets
          (rest ++ []) invalid ∧
        reports Wire.network ⟨1⟩ turns tcp =
          .connected ⟨1⟩ :: packets.map (.received ⟨1⟩) ++ ending := by
  intro peer wire tcp turns
  have admitted : Admitted tcp ⟨1⟩ := admitted_takeIn _ _ _ _ (by decide) (by decide)
  have reported : reports Wire.network ⟨1⟩ turns tcp =
      [.connected ⟨1⟩, .received ⟨1⟩ [7, 8], .disconnected ⟨1⟩] := by
    decide +kernel
  obtain ⟨⟨packets, rest, invalid, ending, parse, parsed, _⟩, _⟩ := reports_of_stream Wire.network
    turns tcp ⟨1⟩ admitted (by simp [turns]) (by rw [reported]; decide)
  exact ⟨admitted, reported, packets, rest, invalid, ending, parse [] (.inl rfl), parsed⟩

end Tcp

end CallGate
