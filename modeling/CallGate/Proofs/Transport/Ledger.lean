import CallGate.Proofs.Transport.Course
import CallGate.Proofs.Transport.Gauge

/-! What a transport has to keep straight about all its connections, whatever it does next. -/

namespace CallGate

namespace Tcp

variable {ν : Type}

/-- Reading a connection queues the packets that frames brought, and goes on, or ends. -/
theorem attend_of_reading (network : Network ν) (now : Instant) {tcp : Tcp ν} {id : ConnectionId}
    {connection : Connection} (known : tcp.connections.get? id = some connection)
    (reading : connection.readClosed = false) :
    ∃ packets, Frame.Fit packets ∧
      ((∃ kept, kept.readClosed = false ∧
          (attend network now tcp id).connections.get? id = some kept ∧
          (attend network now tcp id).events = tcp.events ++ packets.map (.received id)) ∨
        (∃ kept, kept.readClosed = true ∧
          (attend network now tcp id).connections.get? id = some kept ∧
          (attend network now tcp id).events =
            tcp.events ++ packets.map (.received id) ++ [.disconnected id]) ∨
        (attend network now tcp id).connections.get? id = none ∧
          (attend network now tcp id).events =
            tcp.events ++ packets.map (.received id) ++ [.timedOut id]) := by
  -- Splitting yields packets of allowed lengths only.
  have fit : Frame.Fit (harvest network id connection now tcp.network).packets :=
    (Frame.parse_split _).fit
  simp only [attend, known, reading, Bool.false_eq_true, if_false]
  generalize harvest network id connection now tcp.network = harvest at fit
  refine ⟨harvest.packets, fit, ?_⟩
  -- The stream has ended, the silence was too long, or the connection goes on.
  cases harvest.closed with
  | true =>
    refine .inr (.inl ⟨{ harvest.connection with readClosed := true }, rfl, ?_, rfl⟩)
    simp [Connections.get?_insert]
  | false =>
    simp only [Bool.false_eq_true, if_false]
    split
    · refine .inr (.inr ⟨by rw [get?_close, if_pos rfl], ?_⟩)
      rw [events_close]
    · refine .inl ⟨{ harvest.connection with readClosed := false }, rfl, ?_, rfl⟩
      simp [Connections.get?_insert]

/-- The number of the next connection stays what it is, whatever becomes of the others. -/
theorem fixed_nextId : Fixed fun tcp : Tcp ν => tcp.nextId := fun _ _ _ _ _ => rfl

/-- Closing a connection gives out no number. -/
@[simp] theorem nextId_close (network : Network ν) (tcp : Tcp ν) (id : ConnectionId) :
    (close network tcp id).nextId = tcp.nextId :=
  fixed_close fixed_nextId network tcp id

/-- Reading a connection gives out no number. -/
theorem nextId_attend (network : Network ν) (now : Instant) (tcp : Tcp ν) (id : ConnectionId) :
    (attend network now tcp id).nextId = tcp.nextId :=
  fixed_attend fixed_nextId network now tcp id

/-- Neither does handing out an event. -/
theorem nextId_nextEvent (network : Network ν) (tcp : Tcp ν) :
    (tcp.nextEvent network).2.nextId = tcp.nextId :=
  fixed_nextEvent fixed_nextId network tcp

/-- Neither does closing a connection for the caller. -/
theorem nextId_disconnect (network : Network ν) (id : ConnectionId) (tcp : Tcp ν) :
    (disconnect network id tcp).nextId = tcp.nextId :=
  fixed_disconnect fixed_nextId network id tcp

/-- The first event is handed out, and the report of a close takes the entry along. -/
theorem nextEvent_of_cons (network : Network ν) {tcp : Tcp ν} {event : Event} {rest : List Event}
    (queued : tcp.events = event :: rest) :
    (tcp.nextEvent network).1 = some event ∧ (tcp.nextEvent network).2.events = rest ∧
      (tcp.nextEvent network).2.nextId = tcp.nextId ∧
      ∀ id, (tcp.nextEvent network).2.connections.get? id =
        if event = .disconnected id then none else tcp.connections.get? id := by
  -- Only the report of a close has a connection to release.
  cases event with
  | disconnected other => simp [nextEvent, queued, get?_close]
  | _ => simp [nextEvent, queued]

/-- Closing a connection that has an entry forgets the entry and everything queued of it. -/
theorem disconnect_of_known (network : Network ν) {tcp : Tcp ν} {id : ConnectionId}
    (known : tcp.connections.contains id) :
    (disconnect network id tcp).connections.get? id = none ∧
      eventsOf id (disconnect network id tcp).events = [] := by
  -- The entry is taken away by closing, and what is queued is filtered.
  simp only [disconnect, known, if_true]
  refine ⟨by rw [get?_close, if_pos rfl], eventsOf_of_ne fun event member => ?_⟩
  simpa using (List.mem_filter.mp member).2

/-- What stands in the tables and the queue of a transport, next to what it has handed out, when
so many numbers were given out. -/
structure Ledger (given : Nat) (handed : List Event) (tcp : Tcp ν) : Prop where
  next : tcp.nextId = UInt64.ofNat (given + 1)
  entered (id : ConnectionId) (connection : Connection)
    (known : tcp.connections.get? id = some connection) : id.number.toNat ≤ given
  past : ∀ event ∈ handed ++ tcp.events, event.connection.number.toNat ≤ given
  rising : ((handed ++ tcp.events).filterMap Event.greeted?).Pairwise
    fun earlier later => earlier.number < later.number
  course (id : ConnectionId) :
    Course id (tcp.connections.get? id) (eventsOf id handed) (eventsOf id tcp.events)

namespace Ledger

variable {given : Nat} {handed : List Event} {tcp after : Tcp ν}

/-- A ledger is kept over the numbers, the entries and the queue, and over nothing else. -/
theorem congr (ledger : Ledger given handed tcp) (next : after.nextId = tcp.nextId)
    (connections : after.connections = tcp.connections) (events : after.events = tcp.events) :
    Ledger given handed after where
  -- Each part is about the number, the entries or the queue, none of which has changed.
  next := next.trans ledger.next
  entered := by rw [connections]; exact ledger.entered
  past := by rw [events]; exact ledger.past
  rising := by rw [events]; exact ledger.rising
  course := by rw [connections, events]; exact ledger.course

/-- A number that was not given out yet is on no event. -/
theorem eventsOf_eq_nil (ledger : Ledger given handed tcp) {id : ConnectionId}
    (unused : given < id.number.toNat) : eventsOf id (handed ++ tcp.events) = [] := by
  -- An event of the connection would have a number that was given out.
  refine eventsOf_of_ne fun event member same => ?_
  have bound := ledger.past event member
  rw [same] at bound
  omega

/-- The next number is greater than all that were given out, so no entry and no event has it. -/
theorem unheard (ledger : Ledger given handed tcp) (few : given + 1 < 2 ^ 64) :
    tcp.nextId.toNat = given + 1 ∧ tcp.connections.get? ⟨tcp.nextId⟩ = none ∧
      eventsOf ⟨tcp.nextId⟩ handed = [] ∧ eventsOf ⟨tcp.nextId⟩ tcp.events = [] := by
  have number : tcp.nextId.toNat = given + 1 := by
    rw [ledger.next]
    exact UInt64.toNat_ofNat_of_lt' few
  -- An entry or an event with that number would contradict what the ledger says of all of them.
  refine ⟨number, ?_, ?_⟩
  · cases entry : tcp.connections.get? ⟨tcp.nextId⟩ with
    | none => rfl
    | some connection =>
      have bound : tcp.nextId.toNat ≤ given := ledger.entered _ connection entry
      omega
  · rw [← List.append_eq_nil_iff, ← eventsOf_append]
    exact ledger.eventsOf_eq_nil (Nat.lt_of_lt_of_eq (Nat.lt_succ_self given) number.symm)

/-- A peer that is not turned away is taken in under the next number. -/
theorem enter (ledger : Ledger given handed tcp) (network : Network ν) (now : Instant)
    (arrival : Arrival) (welcome : tcp.refusal? arrival = none) (few : given + 1 < 2 ^ 64) :
    Ledger (given + 1) handed (Tcp.takeIn network now tcp arrival) := by
  obtain ⟨number, _, unhanded, unqueued⟩ := ledger.unheard few
  -- The parts are shown for the one entry and the one event that are new.
  simp only [Tcp.takeIn, welcome]
  constructor
  case next =>
    show tcp.nextId + 1 = _
    rw [ledger.next]
    exact (UInt64.ofNat_add (given + 1) 1).symm
  case entered =>
    intro id connection known
    rw [Connections.get?_insert] at known
    -- The entry is the new one, or an old one.
    split at known
    · rename_i same
      exact Nat.le_of_eq (by rw [← same]; exact number)
    · exact Nat.le_succ_of_le (ledger.entered id connection known)
  case past =>
    intro event member
    rw [← List.append_assoc, List.mem_append, List.mem_singleton] at member
    rcases member with old | rfl
    · exact Nat.le_succ_of_le (ledger.past event old)
    · exact Nat.le_of_eq number
  case rising =>
    rw [← List.append_assoc, List.filterMap_append, List.pairwise_append]
    refine ⟨ledger.rising, by simp [Event.greeted?], ?_⟩
    -- Whatever was given out before was given out with a smaller number.
    intro earlier member later last
    obtain ⟨event, old, given⟩ := List.mem_filterMap.mp member
    have greeted : event.connection = earlier := by
      cases event <;> simp_all [Event.greeted?, Event.connection]
    simp only [List.filterMap_cons, List.filterMap_nil, Event.greeted?,
      List.mem_singleton] at last
    have bound := ledger.past event old
    rw [greeted] at bound
    rw [last, UInt64.lt_iff_toNat_lt, number]
    omega
  case course =>
    intro id
    show Course id ((tcp.connections.insert ⟨tcp.nextId⟩ _).get? id) _ _
    rw [Connections.get?_insert]
    by_cases same : (⟨tcp.nextId⟩ : ConnectionId) = id
    · subst same
      -- Its course begins with the greeting that is queued, and goes on.
      rw [if_pos rfl, eventsOf_append, unhanded, unqueued]
      exact .going _ [] (by simp [Frame.Fit]) rfl (by simp [eventsOf, Event.connection])
    · have apart : eventsOf id [.connected ⟨tcp.nextId⟩] = [] :=
        eventsOf_of_ne (by simpa [Event.connection] using same)
      rw [if_neg same, eventsOf_append, apart, List.append_nil]
      exact ledger.course id

/-- Nobody else is taken in. -/
theorem refuse (ledger : Ledger given handed tcp) (network : Network ν) (now : Instant)
    (arrival : Arrival) {notice : Notice} (refused : tcp.refusal? arrival = some notice) :
    Ledger given handed (Tcp.takeIn network now tcp arrival) := by
  -- A peer that is turned away leaves the numbers, the entries and the queue alone.
  simp only [Tcp.takeIn, refused]
  exact ledger.congr rfl rfl rfl

/-- Whoever comes takes one number at most. -/
theorem takeIn (ledger : Ledger given handed tcp) (network : Network ν) (now : Instant)
    (arrival : Arrival) (few : given + 1 < 2 ^ 64) :
    ∃ later, later ≤ given + 1 ∧ Ledger later handed (takeIn network now tcp arrival) := by
  -- Whoever is turned away takes none, and whoever is taken in takes the next one.
  cases refused : tcp.refusal? arrival with
  | some notice => exact ⟨given, by omega, ledger.refuse network now arrival refused⟩
  | none => exact ⟨given + 1, Nat.le_refl _, ledger.enter network now arrival refused few⟩

/-- Events of a connection whose number was given out are queued. -/
theorem extend (ledger : Ledger given handed tcp) {id : ConnectionId} {more : List Event}
    (next : after.nextId = tcp.nextId) (queued : after.events = tcp.events ++ more)
    (own : ∀ event ∈ more, event.connection = id) (ungreeted : .connected id ∉ more)
    (issued : id.number.toNat ≤ given)
    (others : ∀ other, id ≠ other →
      after.connections.get? other = tcp.connections.get? other)
    (course : Course id (after.connections.get? id) (eventsOf id handed)
      (eventsOf id tcp.events ++ more)) : Ledger given handed after := by
  constructor
  case next => exact next.trans ledger.next
  case entered =>
    intro other connection known
    -- Only the connection itself may have a changed entry.
    by_cases same : id = other
    · exact same ▸ issued
    · exact ledger.entered other connection (others other same ▸ known)
  case past =>
    intro event member
    rw [queued, ← List.append_assoc, List.mem_append] at member
    rcases member with old | new
    · exact ledger.past event old
    · rw [own event new]
      exact issued
  case rising =>
    -- None of the events gives out a number.
    have plain : more.filterMap Event.greeted? = [] := by
      rw [List.filterMap_eq_nil_iff]
      intro event member
      cases event with
      | connected other =>
        have same : other = id := own _ member
        exact absurd (same ▸ member) ungreeted
      | _ => rfl
    rw [queued, ← List.append_assoc, List.filterMap_append, plain, List.append_nil]
    exact ledger.rising
  case course =>
    intro other
    rw [queued, eventsOf_append]
    -- The others have no event among the new ones.
    by_cases same : id = other
    · subst same
      rw [eventsOf_of_own own]
      exact course
    · rw [eventsOf_of_ne fun event member apart => same ((own event member).symm.trans apart),
        List.append_nil, others other same]
      exact ledger.course other

/-- A connection is read. -/
theorem attend (ledger : Ledger given handed tcp) (network : Network ν) (now : Instant)
    (id : ConnectionId) : Ledger given handed (attend network now tcp id) := by
  by_cases unread : ∀ connection, tcp.connections.get? id = some connection →
      connection.readClosed = true
  · rw [attend_of_unread unread]
    exact ledger
  · simp only [Classical.not_forall, Bool.not_eq_true] at unread
    obtain ⟨connection, known, reading⟩ := unread
    obtain ⟨packets, fit, outcome⟩ := attend_of_reading network now known reading
    obtain ⟨_, _, _, others⟩ := attend_keeps network now tcp id
    have issued := ledger.entered id connection known
    have course := ledger.course id
    rw [known] at course
    -- Whatever comes of the reading, packets are queued first.
    rcases outcome with ⟨kept, stays, entry, queued⟩ | ⟨kept, ends, entry, queued⟩ | ⟨entry, queued⟩
    -- The connection goes on, with the packets behind what was queued.
    · refine ledger.extend (nextId_attend ..) queued (own_of_received id packets) (by simp) issued
        others ?_
      rw [entry]
      exact (course.received reading fit kept).1 stays
    -- The end of the stream is queued behind the packets.
    · rw [List.append_assoc] at queued
      refine ledger.extend (nextId_attend ..) queued (own_of_ending id packets rfl) (by simp)
        issued others ?_
      rw [entry, ← List.append_assoc]
      exact (course.received reading fit kept).2.1 ends
    -- The silence is queued behind the packets, and the entry is gone.
    · rw [List.append_assoc] at queued
      refine ledger.extend (nextId_attend ..) queued (own_of_ending id packets rfl) (by simp)
        issued others ?_
      rw [entry, ← List.append_assoc]
      exact (course.received reading fit connection).2.2

/-- The first event is taken. -/
theorem nextEvent (ledger : Ledger given handed tcp) (network : Network ν) :
    Ledger given (handed ++ (tcp.nextEvent network).1.toList) (tcp.nextEvent network).2 := by
  cases queued : tcp.events with
  -- An empty queue hands out nothing, and otherwise the event moves from the queue to what is told.
  | nil => simpa [Tcp.nextEvent, queued] using ledger
  | cons event rest =>
    obtain ⟨first, left, next, entries⟩ := nextEvent_of_cons network queued
    have shift : handed ++ [event] ++ rest = handed ++ tcp.events := by rw [queued]; simp
    rw [first]
    constructor
    case next => exact next.trans ledger.next
    case entered =>
      intro id connection known
      rw [entries] at known
      -- The entry is not the one that the report of a close took along.
      split at known
      · cases known
      · exact ledger.entered id connection known
    case past =>
      rw [left]
      show ∀ event' ∈ handed ++ [event] ++ rest, _
      rw [shift]
      exact ledger.past
    case rising =>
      rw [left]
      show ((handed ++ [event] ++ rest).filterMap _).Pairwise _
      rw [shift]
      exact ledger.rising
    case course =>
      intro id
      have course := ledger.course id
      rw [entries, left]
      rw [queued] at course
      -- The connection whose event it is goes one step further in its course.
      by_cases own : event.connection = id
      · have mine : eventsOf id (event :: rest) = event :: eventsOf id rest := by
          simp [eventsOf, own]
        have handing : eventsOf id (handed ++ (some event).toList) =
            eventsOf id handed ++ [event] := by simp [eventsOf, own]
        rw [mine] at course
        rw [handing]
        exact course.next
      · -- Another connection's event is handed out, and it takes no entry but its own along.
        have differs : event ≠ .disconnected id := fun same => own (by rw [same]; rfl)
        have theirs : eventsOf id (event :: rest) = eventsOf id rest := by simp [eventsOf, own]
        have handing : eventsOf id (handed ++ (some event).toList) = eventsOf id handed := by
          simp [eventsOf, own]
        rw [theirs] at course
        rw [handing, if_neg differs]
        exact course

/-- The caller closes a connection. -/
theorem disconnect (ledger : Ledger given handed tcp) (network : Network ν) (id : ConnectionId) :
    Ledger given handed (Tcp.disconnect network id tcp) := by
  by_cases known : tcp.connections.contains id
  · -- The queue loses the events of the connection, and keeps its order.
    have fewer : (Tcp.disconnect network id tcp).events.Sublist tcp.events := by
      simp only [Tcp.disconnect, known, if_true, events_close]
      exact List.filter_sublist
    obtain ⟨gone, nothing⟩ := disconnect_of_known network known
    have rest := (List.Sublist.refl handed).append fewer
    -- Nothing comes to what is told, so what held of all of it holds of the rest.
    constructor
    case next => exact (nextId_disconnect ..).trans ledger.next
    case entered =>
      intro other connection entered
      by_cases same : id = other
      · subst same
        simp [gone] at entered
      · rw [(disconnect_keeps network same tcp).2] at entered
        exact ledger.entered other connection entered
    case past => exact fun event member => ledger.past event (rest.mem member)
    case rising => exact ledger.rising.sublist (rest.filterMap _)
    case course =>
      intro other
      by_cases same : id = other
      -- Of the closed connection nothing is left, and the others are not touched.
      · subst same
        rw [gone, nothing]
        exact (ledger.course id).forgotten
      · obtain ⟨queued, kept⟩ := disconnect_keeps network same tcp
        rw [kept, queued]
        exact ledger.course other
  -- There is no entry to close.
  · have idle : Tcp.disconnect network id tcp = tcp := by
      rw [Tcp.disconnect, if_neg known]
    rw [idle]
    exact ledger

end Ledger

/-- At the start no number was given out, and there is nothing that could have one. -/
theorem ledger_start (network : ν) (maxClients : UInt64) (idleTimeout : Duration)
    (patience : Nat) :
    Ledger 0 [] ({ network, maxClients, idleTimeout, patience } : Tcp ν) where
  -- With neither entries nor events, each part is about nothing.
  next := rfl
  entered _ _ known := by simp at known
  past := by simp
  rising := by simp
  course id := .unheard id

end Tcp

end CallGate
