import CallGate.Proofs.Transport.Grammar

/-! What is still handed out of a connection that the caller has closed. -/

namespace CallGate.Tcp

variable {ν : Type}

/-- The number of the connection was given out, or all numbers have just run out. -/
def Issued (tcp : Tcp ν) (id : ConnectionId) : Prop := id.number < tcp.nextId ∨ tcp.nextId = 0

/-- A connection is over: it has no entry and gets none any more, and there is nothing left of it
but these events, handed out or queued. -/
structure Settled (id : ConnectionId) (left : List Event) (given : Nat) (handed : List Event)
    (tcp : Tcp ν) : Prop where
  next : tcp.nextId = UInt64.ofNat (given + 1)
  issued : id.number.toNat ≤ given
  gone : tcp.connections.get? id = none
  told : eventsOf id (handed ++ tcp.events) = left

namespace Settled

variable {id : ConnectionId} {left : List Event} {given : Nat} {handed : List Event}
  {tcp after : Tcp ν}

/-- What is left of a connection depends on the numbers, the entries and the queue only. -/
theorem congr (settled : Settled id left given handed tcp) (next : after.nextId = tcp.nextId)
    (connections : after.connections = tcp.connections) (events : after.events = tcp.events) :
    Settled id left given handed after where
  -- Each part is about one of the three.
  next := next.trans settled.next
  issued := settled.issued
  gone := by rw [connections]; exact settled.gone
  told := by rw [events]; exact settled.told

/-- Whoever is taken in gets another number. -/
theorem takeIn (settled : Settled id left given handed tcp) (network : Network ν) (now : Instant)
    (arrival : Arrival) (few : given + 1 < 2 ^ 64) :
    ∃ later, later ≤ given + 1 ∧ Settled id left later handed (takeIn network now tcp arrival) := by
  -- Whoever is turned away changes nothing that is settled.
  cases refused : tcp.refusal? arrival with
  | some notice =>
    refine ⟨given, by omega, ?_⟩
    simp only [Tcp.takeIn, refused]
    exact settled.congr rfl rfl rfl
  | none =>
    -- The next number lies past all that were given out, and this one was.
    have number : tcp.nextId.toNat = given + 1 := by
      rw [settled.next]
      exact UInt64.toNat_ofNat_of_lt' few
    have differs : (⟨tcp.nextId⟩ : ConnectionId) ≠ id := by
      rintro rfl
      have issued : tcp.nextId.toNat ≤ given := settled.issued
      omega
    refine ⟨given + 1, Nat.le_refl _, ?_⟩
    simp only [Tcp.takeIn, refused]
    constructor
    case next =>
      show tcp.nextId + 1 = _
      rw [settled.next]
      exact (UInt64.ofNat_add (given + 1) 1).symm
    case issued => exact Nat.le_succ_of_le settled.issued
    case gone =>
      show (tcp.connections.insert ⟨tcp.nextId⟩ _).get? id = none
      rw [Connections.get?_insert, if_neg differs, settled.gone]
    case told =>
      have apart : eventsOf id [.connected ⟨tcp.nextId⟩] = [] :=
        eventsOf_of_ne (by simpa [Event.connection] using differs)
      rw [← List.append_assoc, eventsOf_append, apart, List.append_nil, settled.told]

/-- Only connections with an entry are read. -/
theorem attend (settled : Settled id left given handed tcp) (network : Network ν) (now : Instant)
    (other : ConnectionId) : Settled id left given handed (attend network now tcp other) := by
  by_cases same : other = id
  · -- Without an entry there is nothing to read.
    subst same
    rw [attend_of_unread (by simp [settled.gone])]
    exact settled
  · -- Reading another connection queues events of that one only.
    obtain ⟨more, queued, own, entries⟩ := attend_keeps network now tcp other
    have apart : eventsOf id more = [] :=
      eventsOf_of_ne fun event member mine => same ((own event member).symm.trans mine)
    exact {
      next := (nextId_attend ..).trans settled.next
      issued := settled.issued
      gone := (entries id same).trans settled.gone
      told := by rw [queued, ← List.append_assoc, eventsOf_append, apart, List.append_nil,
        settled.told] }

/-- What is queued may be handed out. -/
theorem nextEvent (settled : Settled id left given handed tcp) (network : Network ν) :
    Settled id left given (handed ++ (tcp.nextEvent network).1.toList)
      (tcp.nextEvent network).2 where
  -- An event that is handed out has been in the queue, so nothing is added to what is told.
  next := (nextId_nextEvent ..).trans settled.next
  issued := settled.issued
  gone := by
    -- Handing out an event takes an entry away, if it changes any.
    rcases get?_nextEvent network tcp id with same | ⟨_, none⟩
    · rw [same, settled.gone]
    · exact none
  told := by rw [List.append_assoc, events_nextEvent, settled.told]

/-- Closing a connection once more, or another one, takes none of it away. -/
theorem disconnect (settled : Settled id left given handed tcp) (network : Network ν)
    (other : ConnectionId) : Settled id left given handed (disconnect network other tcp) := by
  by_cases same : other = id
  · -- Without an entry the queue is not searched, so what is left stays there.
    subst same
    have unknown : tcp.connections.contains other = false := by
      simp [Connections.contains, settled.gone]
    simp only [Tcp.disconnect, unknown, Bool.false_eq_true, if_false]
    exact settled
  -- Another connection is closed, so the queue loses events of that one only.
  · obtain ⟨queued, entry⟩ := disconnect_keeps network same tcp
    exact {
      next := (nextId_disconnect ..).trans settled.next
      issued := settled.issued
      gone := entry.trans settled.gone
      told := by rw [eventsOf_append, queued, ← eventsOf_append, settled.told] }

/-- So what is left of a connection that is over stays the same at all times. -/
theorem upkeep (network : Network ν) (id : ConnectionId) (left : List Event) :
    Upkeep network fun _ => Settled id left where
  -- All of the upkeep was shown above, one operation at a time.
  congr settled next connections events _ := settled.congr next connections events
  start settled _ := settled
  takeIn settled arrival few := settled.takeIn network _ arrival few
  attend settled other := settled.attend network _ other
  stop settled := settled

/-- Whatever is asked, a connection that is over stays so. -/
theorem follows_respondAll (network : Network ν) (id : ConnectionId) (left : List Event)
    (asks : List (Ask ν)) (tcp : Tcp (ν × Nat)) :
    Follows (fun _ => Settled id left) tcp
      (respondAll network.counted (asks.map Ask.beside) tcp).1
      (respondAll network.counted (asks.map Ask.beside) tcp).2 :=
  (upkeep network.counted id left).follows_respondAll
    (fun settled => settled.nextEvent network.counted)
    (fun other _ _ _ settled => settled.disconnect network.counted other) asks tcp

end Settled

namespace Ledger

variable {given : Nat} {handed : List Event} {tcp : Tcp ν}

/-- Whatever number was given out is among those that are counted. -/
theorem toNat_le_of_issued (ledger : Ledger given handed tcp) {id : ConnectionId}
    (issued : tcp.Issued id) : id.number.toNat ≤ given := by
  -- Numbers have 64 bits.
  have small : id.number.toNat < 2 ^ 64 := id.number.toNat_lt
  -- Either there is a next number, which is one more than those given out, or all are given out.
  rcases Nat.lt_or_ge (given + 1) (2 ^ 64) with room | full
  · have number : tcp.nextId.toNat = given + 1 := by
      rw [ledger.next]
      exact UInt64.toNat_ofNat_of_lt' room
    rcases issued with before | none
    · rw [UInt64.lt_iff_toNat_lt, number] at before
      omega
    · simp [none] at number
  · omega

/-- Closing a connection leaves nothing of it but the report of a silence, for which its entry has
been taken away before. -/
theorem closed (ledger : Ledger given handed tcp) (network : Network ν) (id : ConnectionId) :
    (Tcp.disconnect network id tcp).connections.get? id = none ∧
      (eventsOf id (Tcp.disconnect network id tcp).events = [] ↔ .timedOut id ∉ tcp.events) := by
  -- Whether a silence is to be reported is told by the connection's own events.
  have own : .timedOut id ∈ tcp.events ↔ .timedOut id ∈ eventsOf id tcp.events := by
    simp [eventsOf, Event.connection]
  rw [own, (ledger.course id).timedOut_mem_iff]
  cases entry : tcp.connections.get? id with
  | some connection =>
    -- The entry is found, so the queue is searched.
    have known : tcp.connections.contains id = true := by simp [Connections.contains, entry]
    obtain ⟨gone, nothing⟩ := disconnect_of_known network known
    exact ⟨gone, by simp [nothing]⟩
  | none =>
    -- There is no entry to be found, so the queue stays as it is.
    have unknown : tcp.connections.contains id = false := by simp [Connections.contains, entry]
    simp [Tcp.disconnect, unknown, entry]

end Ledger

/-- After a connection was closed, there is nothing of it but what the closing has left, whatever is
asked then. -/
theorem eventsOf_respondAll_disconnect {network : Network ν} {given : Nat} {handed : List Event}
    {tcp : Tcp (ν × Nat)} (ledger : Ledger given handed tcp) (within : given ≤ tcp.network.2)
    {id : ConnectionId} (issued : tcp.Issued id) (later : List (Ask ν)) {out : List Event}
    {after : Tcp (ν × Nat)}
    (ran : respondAll network.counted (later.map Ask.beside) (disconnect network.counted id tcp) =
      (out, after)) (few : after.network.2 < 2 ^ 64) :
    eventsOf id (out ++ after.events) =
      eventsOf id (disconnect network.counted id tcp).events := by
  -- The connection is over with its closing, and it stays so from then on.
  have settled : Settled id (eventsOf id (disconnect network.counted id tcp).events) given []
      (disconnect network.counted id tcp) := {
    next := (nextId_disconnect ..).trans ledger.next
    issued := ledger.toNat_le_of_issued issued
    gone := (ledger.closed network.counted id).1
    told := by rw [List.nil_append] }
  -- What is settled is followed through all that is asked later.
  have follows := Settled.follows_respondAll network id
    (eventsOf id (disconnect network.counted id tcp).events) later
    (disconnect network.counted id tcp)
  rw [ran] at follows
  obtain ⟨_, _, final⟩ := follows.kept few (by rwa [count_disconnect]) settled
  exact final.told

/-- After a caller has closed a connection whose number was given out, nothing more is handed out
of it, whatever is asked and whatever the machine does, unless the report of a silence was queued
for it. In any case no more is handed out than the closing has left in the queue. -/
theorem closed_for_good (network : Network ν) (before later : List (Ask ν)) (id : ConnectionId)
    (state : ν) (maxClients : UInt64) (idleTimeout : Duration) (patience : Nat)
    (issued : (respondAll network before
      { network := state, maxClients, idleTimeout, patience }).2.Issued id)
    (few : accepted network (before ++ .disconnect id :: later)
      { network := state, maxClients, idleTimeout, patience } < 2 ^ 64) :
    let start : Tcp ν := { network := state, maxClients, idleTimeout, patience }
    let tcp := (respondAll network before start).2
    let closed := disconnect network id tcp
    let result := respondAll network later closed
    (.timedOut id ∉ tcp.events → eventsOf id result.1 = []) ∧
      eventsOf id (result.1 ++ result.2.events) = eventsOf id closed.events ∧
      (eventsOf id closed.events = [] ↔ .timedOut id ∉ tcp.events) := by
  intro start tcp closed result
  -- All that is asked is followed on the machine that counts, up to the closing and behind it.
  have front := follows_respondAll network before (start.beside 0)
  have seen : respondAll network before start = _ :=
    bare_respondAll network.counted_mirrors before (start.beside 0)
  have total : accepted network (before ++ .disconnect id :: later) start =
      (respondAll network.counted (later.map Ask.beside) (disconnect network.counted id
        (respondAll network.counted (before.map Ask.beside) (start.beside 0)).2)).2.network.2 := by
    rw [accepted, List.map_append, respondAll_append]
    rfl
  rcases reached : respondAll network.counted (before.map Ask.beside) (start.beside 0) with
    ⟨handed, wide⟩
  rw [reached] at front seen total
  rcases ran : respondAll network.counted (later.map Ask.beside)
    (disconnect network.counted id wide) with ⟨out, after⟩
  rw [ran] at total
  have few : after.network.2 < 2 ^ 64 := total ▸ few
  have shut : (disconnect network.counted id wide).bare = closed := by
    rw [bare_disconnect network.counted_mirrors]
    exact congrArg (fun left => disconnect network id left.2) seen.symm
  have ended : result = (out, after.bare) := by
    have same := bare_respondAll network.counted_mirrors later (disconnect network.counted id wide)
    rw [shut, ran] at same
    exact same
  have counted : wide.network.2 < 2 ^ 64 := by
    -- No fewer are accepted in the end than before the closing.
    have back := (follows_respondAll network later (disconnect network.counted id wide)).counted
    rw [count_disconnect, ran] at back
    exact Nat.lt_of_le_of_lt back few
  obtain ⟨given, within, ledger⟩ := front.kept counted (Nat.zero_le _)
    (ledger_start (state, 0) maxClients idleTimeout patience)
  have same : tcp = wide.bare := congrArg Prod.snd seen
  have issued : tcp.Issued id := issued
  rw [same] at issued ⊢
  have told := eventsOf_respondAll_disconnect ledger within issued later ran few
  obtain ⟨_, silent⟩ := ledger.closed network.counted id
  have told : eventsOf id (result.1 ++ result.2.events) = eventsOf id closed.events := by
    rw [ended, ← shut]
    exact told
  have silent : eventsOf id closed.events = [] ↔ .timedOut id ∉ wide.bare.events := by
    rw [← shut]
    exact silent
  refine ⟨fun heard => ?_, told, silent⟩
  rw [silent.mpr heard, eventsOf_append, List.append_eq_nil_iff] at told
  -- What is told in all is nothing, so what is handed out is nothing.
  exact told.1

/-- A second client is closed before its number is handed out, and writes in vain. -/
theorem closed_for_good_before_greeting :
    let peer : SocketAddress := { ip := .v4 ⟨127, 0, 0, 1⟩, port := 40000 }
    let wire : Wire := { streams := [{ client := peer }, { client := peer }], backlog := [0, 1] }
    let start : Tcp Wire :=
      { network := wire, maxClients := 4, idleTimeout := ⟨1000⟩, patience := 3 }
    let later : List (Ask Wire) :=
      [.world fun wire => wire.clientWrite 1 [1, 0, 0, 0, 7], .poll ⟨0⟩, .poll ⟨0⟩]
    let tcp := (respondAll Wire.network [.poll ⟨0⟩] start).2
    tcp.Issued ⟨2⟩ ∧
      accepted Wire.network ([.poll ⟨0⟩] ++ .disconnect ⟨2⟩ :: later) start < 2 ^ 64 ∧
      tcp.events = [.connected ⟨2⟩] ∧
      eventsOf ⟨2⟩ (respondAll Wire.network later (disconnect Wire.network ⟨2⟩ tcp)).1 = [] := by
  -- The hypotheses are computed on the wire.
  intro peer wire start later tcp
  have issued : tcp.Issued ⟨2⟩ := .inl (by decide +kernel)
  have few : accepted Wire.network ([.poll ⟨0⟩] ++ .disconnect ⟨2⟩ :: later) start < 2 ^ 64 := by
    decide +kernel
  have queued : tcp.events = [.connected ⟨2⟩] := by decide +kernel
  have silent := (closed_for_good Wire.network [.poll ⟨0⟩] later ⟨2⟩ wire 4 ⟨1000⟩ 3 issued few).1
  have awake : .timedOut ⟨2⟩ ∉ tcp.events := by simp [queued]
  exact ⟨issued, few, queued, silent awake⟩

/-- Two clients are silent for too long in one pump. The second one is closed while its report is
still queued, and the report is handed out all the same. -/
theorem timedOut_after_disconnect :
    let peer : SocketAddress := { ip := .v4 ⟨127, 0, 0, 1⟩, port := 40000 }
    let wire : Wire := { streams := [{ client := peer }, { client := peer }], backlog := [0, 1] }
    let start : Tcp Wire :=
      { network := wire, maxClients := 4, idleTimeout := ⟨1000⟩, patience := 3 }
    let before := respondAll Wire.network [.poll ⟨0⟩, .poll ⟨0⟩,
      .world fun wire => { wire with time := wire.time + 1000 }, .poll ⟨0⟩] start
    before.1 = [.connected ⟨1⟩, .connected ⟨2⟩, .timedOut ⟨1⟩] ∧
      (respondAll Wire.network [.poll ⟨0⟩] (disconnect Wire.network ⟨2⟩ before.2)).1 =
        [.timedOut ⟨2⟩] := by
  -- The run is short, and its events are computed.
  decide +kernel

end CallGate.Tcp
