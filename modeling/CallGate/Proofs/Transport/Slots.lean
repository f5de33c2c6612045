import CallGate.Proofs.Transport.Age

/-! How many connections a transport holds, and that it holds none whose end was handed out. -/

namespace CallGate

variable {ν : Type}

namespace Connections

variable {α : Type} {id : ConnectionId} {value : α} {table : Connections α}

/-- There is one entry for each key. -/
theorem size_eq_length_keys (table : Connections α) : table.size = table.keys.length :=
  -- Keys are listed entry by entry.
  (List.length_map ..).symm

/-- An entry that is put in has the place of an old one, or the place behind all others. -/
theorem keys_insert (table : Connections α) (id : ConnectionId) (value : α) :
    (table.insert id value).keys =
      if id ∈ table.keys then table.keys else table.keys ++ [id] := by
  -- The statement is about the list of entries, on which putting in recurses.
  have among (entries : List (ConnectionId × α)) : (put id value entries).map Prod.fst =
      if id ∈ entries.map Prod.fst then entries.map Prod.fst
      else entries.map Prod.fst ++ [id] := by
    -- The search for a place goes by the first entry, unless that is the one.
    induction entries with
    | nil => simp [put]
    | cons first rest ih =>
      obtain ⟨key, old⟩ := first
      by_cases here : key = id
      · simp [put, here]
      · simp only [put, if_neg here, List.map_cons, ih, List.mem_cons, Ne.symm here, false_or]
        split <;> rfl
  exact among table.entries

/-- Putting an entry in takes one more place at most, and none for a connection that has one. -/
theorem size_insert_le (table : Connections α) (id : ConnectionId) (value : α) :
    (table.insert id value).size ≤ if id ∈ table.keys then table.size else table.size + 1 := by
  -- The keys tell the size: they stay, or there is one more.
  simp only [size_eq_length_keys, keys_insert]
  split
  · exact Nat.le_refl _
  · exact Nat.le_of_eq (List.length_append ..)

/-- Removing an entry removes its key. -/
theorem keys_erase (table : Connections α) (id : ConnectionId) :
    (table.erase id).keys = table.keys.filter (· ≠ id) := by
  -- The filter by key commutes with listing the keys.
  rw [keys, keys, erase, List.filter_map]
  rfl

/-- A connection has an entry exactly if one is found. -/
theorem mem_keys_iff : id ∈ table.keys ↔ ∃ value, table.get? id = some value := by
  have among (entries : List (ConnectionId × α)) :
      id ∈ entries.map Prod.fst ↔ ∃ value, find id entries = some value := by
    -- Both sides go by the first entry, or else by the rest.
    induction entries with
    | nil => simp [find]
    | cons first rest ih =>
      obtain ⟨key, old⟩ := first
      by_cases here : key = id
      · simp [find, here]
      · simp [find, here, Ne.symm here, ← ih]
  exact among table.entries

/-- Removing an entry that is not there changes nothing. -/
theorem erase_of_get?_eq_none (absent : table.get? id = none) : table.erase id = table := by
  -- No entry has the key, or it would have been found.
  have others (entry : ConnectionId × α) (member : entry ∈ table.entries) : entry.1 ≠ id := by
    intro same
    have among : id ∈ table.keys := List.mem_map.mpr ⟨entry, member, same⟩
    obtain ⟨value, found⟩ := mem_keys_iff.mp among
    rw [absent] at found
    cases found
  rw [erase, List.filter_eq_self.mpr fun entry member => by simpa using others entry member]

/-- What stands in a table with one entry for each connection is found there. -/
theorem get?_of_mem (distinct : table.keys.Nodup) (member : (id, value) ∈ table.entries) :
    table.get? id = some value := by
  have among (entries : List (ConnectionId × α)) (distinct : (entries.map Prod.fst).Nodup)
      (member : (id, value) ∈ entries) : find id entries = some value := by
    -- The search ends at the first entry with the key, and no other one has it.
    induction entries with
    | nil => cases member
    | cons first rest ih =>
      obtain ⟨key, old⟩ := first
      obtain ⟨fresh, distinct⟩ := List.nodup_cons.mp distinct
      rcases List.mem_cons.mp member with here | later
      · cases here
        simp [find]
      · -- The first entry is that of another connection, or its key would come twice.
        have apart : key ≠ id := fun same => fresh (same ▸ List.mem_map.mpr ⟨_, later, rfl⟩)
        rw [find, if_neg apart]
        exact ih distinct later
  exact among table.entries distinct member

end Connections

namespace Tcp

/-- Closing a connection removes its entry, if there is one. -/
theorem connections_close (network : Network ν) (tcp : Tcp ν) (id : ConnectionId) :
    (close network tcp id).connections = tcp.connections.erase id := by
  -- Without an entry there is none to remove.
  cases known : tcp.connections.get? id with
  | none => simp [close, known, Connections.erase_of_get?_eq_none known]
  | some connection => simp [close, known]

/-- Closing a connection for the caller removes its entry, if there is one. -/
theorem connections_disconnect (network : Network ν) (tcp : Tcp ν) (id : ConnectionId) :
    (disconnect network id tcp).connections = tcp.connections.erase id := by
  unfold disconnect
  split
  · exact connections_close network tcp id
  · -- Nothing is done about a connection that is not there.
    rename_i absent
    rw [Connections.contains, Option.not_isSome_iff_eq_none] at absent
    exact (Connections.erase_of_get?_eq_none absent).symm

/-- A peer is taken in exactly if there is room for it and its socket can be prepared. -/
theorem refusal?_eq_none_iff {tcp : Tcp ν} {arrival : Arrival} :
    tcp.refusal? arrival = none ↔
      tcp.connections.size < tcp.maxClients.toNat ∧ arrival.fault = none := by
  -- Room is asked for first, and then the socket.
  unfold refusal?
  split
  · rename_i full
    simp [Nat.not_lt_of_le full]
  · rename_i room
    simp [Nat.lt_of_not_le room]

/-- Whoever is turned away came too late or on a socket that cannot be prepared. -/
theorem exists_refusal?_iff {tcp : Tcp ν} {arrival : Arrival} :
    (∃ notice, tcp.refusal? arrival = some notice) ↔
      tcp.maxClients.toNat ≤ tcp.connections.size ∨ arrival.fault.isSome := by
  -- It is the negation of being taken in.
  rw [← Option.isSome_iff_exists, Option.isSome_iff_ne_none, Ne, refusal?_eq_none_iff,
    Option.isSome_iff_ne_none, not_and_or, Nat.not_lt]

/-- How many connections there may be stays what it is. -/
theorem fixed_maxClients : Fixed fun tcp : Tcp ν => tcp.maxClients := fun _ _ _ _ _ => rfl

/-- Every connection has one place in the table, no more of them are taken than there may be, and
one whose peer is done is given up by the time its end is handed out. -/
structure Slots (tcp : Tcp ν) : Prop where
  distinct : tcp.connections.keys.Nodup
  few : tcp.connections.size ≤ tcp.maxClients.toNat
  announced (entry : ConnectionId × Connection) (member : entry ∈ tcp.connections.entries)
    (unread : entry.2.readClosed = true) : .disconnected entry.1 ∈ tcp.events

namespace Slots

variable {network : Network ν} {now : Instant} {tcp after : Tcp ν}

/-- At the start there are no connections. -/
theorem start (network : ν) (maxClients : UInt64) (idleTimeout : Duration) (patience : Nat) :
    Slots ({ network, maxClients, idleTimeout, patience } : Tcp ν) where
  -- An empty table has no key twice, no place taken and no end to announce.
  distinct := List.nodup_nil
  few := Nat.zero_le _
  announced _ member := by cases member

/-- Only the entries and the queue matter. -/
theorem congr (slots : Slots tcp) (maxClients : after.maxClients = tcp.maxClients)
    (connections : after.connections = tcp.connections) (events : after.events = tcp.events) :
    Slots after where
  -- Each part is about the table, its limit or the queue.
  distinct := by rw [connections]; exact slots.distinct
  few := by rw [connections, maxClients]; exact slots.few
  announced := by rw [connections, events]; exact slots.announced

/-- When the queue is empty, every connection is still read. -/
theorem reading (slots : Slots tcp) (empty : tcp.events = [])
    (entry : ConnectionId × Connection) (member : entry ∈ tcp.connections.entries) :
    entry.2.readClosed = false := by
  -- The end of one that is not read any more would be queued.
  rw [Bool.eq_false_iff]
  intro unread
  simpa [empty] using slots.announced entry member unread

/-- A connection is given up, and some events are dropped, but no other one's end. -/
theorem erase (slots : Slots tcp) {id : ConnectionId}
    (maxClients : after.maxClients = tcp.maxClients)
    (connections : after.connections = tcp.connections.erase id)
    (kept : ∀ other, other ≠ id → .disconnected other ∈ tcp.events →
      .disconnected other ∈ after.events) : Slots after where
  distinct := by
    -- Fewer keys come no more than once.
    rw [connections, Connections.keys_erase]
    exact slots.distinct.filter _
  few := by
    rw [connections, maxClients]
    exact Nat.le_trans (List.length_filter_le ..) slots.few
  announced entry member unread := by
    rw [connections] at member
    -- Whoever still has an entry is another one, so its end is still queued.
    obtain ⟨old, apart⟩ := List.mem_filter.mp member
    exact kept entry.1 (by simpa using apart) (slots.announced entry old unread)

/-- The entry of a connection is replaced or added, and events may be queued. -/
theorem insert (slots : Slots tcp) {id : ConnectionId} {kept : Connection}
    (room : (tcp.connections.insert id kept).size ≤ tcp.maxClients.toNat)
    (maxClients : after.maxClients = tcp.maxClients)
    (connections : after.connections = tcp.connections.insert id kept)
    {more : List Event} (queued : after.events = tcp.events ++ more)
    (told : kept.readClosed = true → .disconnected id ∈ more) : Slots after where
  distinct := by
    rw [connections, Connections.keys_insert]
    split
    · exact slots.distinct
    · -- The key is new, so it stands behind the others once.
      rename_i fresh
      refine List.nodup_append.mpr ⟨slots.distinct, by simp, fun other old added last same => ?_⟩
      exact fresh (List.mem_singleton.mp last ▸ same ▸ old)
  few := by
    rw [connections, maxClients]
    exact room
  announced entry member unread := by
    rw [connections] at member
    rw [queued, List.mem_append]
    -- The entry is the new one, whose end is told here, or an old one.
    rcases Connections.mem_insert member with rfl | old
    · exact .inr (told unread)
    · exact .inl (slots.announced entry old unread)

/-- A peer is taken in where there is room for one more. -/
theorem takeIn (slots : Slots tcp) (network : Network ν) (now : Instant)
    (arrival : Arrival) : Slots (Tcp.takeIn network now tcp arrival) := by
  cases refused : tcp.refusal? arrival with
  | some notice =>
    -- Whoever is turned away takes no place.
    simp only [Tcp.takeIn, refused]
    exact slots.congr rfl rfl rfl
  | none =>
    have room := (refusal?_eq_none_iff.mp refused).1
    simp only [Tcp.takeIn, refused]
    refine slots.insert ?_ rfl rfl rfl (by simp)
    -- One more than there were is not more than there may be.
    refine Nat.le_trans (Connections.size_insert_le ..) ?_
    split <;> omega

/-- Everyone who waits is taken in where there is room. -/
theorem accept (slots : Slots tcp) (network : Network ν) (now : Instant) :
    Slots (tcp.accept network now) := by
  -- The peers are taken in one after the other, each where the others have left room.
  have all (peers : List Arrival) {tcp : Tcp ν} (slots : Slots tcp) :
      Slots (peers.foldl (Tcp.takeIn network now) tcp) := by
    induction peers generalizing tcp with
    | nil => exact slots
    | cons peer peers ih => exact ih (slots.takeIn network now peer)
  unfold Tcp.accept
  split
  · -- Neither asking the listener nor a pause touches entries or the queue.
    have asked : Slots { tcp with
        network := (network.arrivals tcp.network).2, acceptPausedUntil := none } :=
      slots.congr rfl rfl rfl
    have taken := all (network.arrivals tcp.network).1.peers asked
    simp only
    split
    · exact taken
    · exact taken.congr rfl rfl rfl
  · exact slots

/-- Reading a connection leaves it its place, unless it was silent for too long. -/
theorem attend (slots : Slots tcp) (network : Network ν) (now : Instant) (id : ConnectionId) :
    Slots (Tcp.attend network now tcp id) := by
  -- A connection that is unknown or not read any more is left alone.
  unfold Tcp.attend
  split
  · exact slots
  · rename_i connection known
    split
    · exact slots
    · generalize harvest network id connection now tcp.network = harvest
      -- The connection has a place already, so its entry needs no other one.
      have room (kept : Connection) :
          (tcp.connections.insert id kept).size ≤ tcp.maxClients.toNat := by
        refine Nat.le_trans (Connections.size_insert_le ..) ?_
        rw [if_pos (Connections.mem_keys_iff.mpr ⟨connection, known⟩)]
        exact slots.few
      simp only
      split
      · -- Nothing more will be read of it, and its end is queued behind its packets.
        exact slots.insert (room _) rfl rfl (List.append_assoc ..) (by simp)
      · rename_i going
        have put : Slots { tcp with
            network := harvest.network
            connections := tcp.connections.insert id
              { harvest.connection with readClosed := harvest.closed }
            events := tcp.events ++ harvest.packets.map (.received id)
            log := tcp.log ++ harvest.notices } :=
          slots.insert (room _) rfl rfl rfl (by simp [going])
        split
        · -- It was silent for too long. Its entry goes, and no end in the queue does.
          refine put.erase (fixed_close fixed_maxClients ..) (connections_close ..) ?_
          intro other _ queued
          simp only [events_close, List.mem_append] at queued ⊢
          exact .inl queued
        · exact put

/-- The place of a connection is given up when its end is handed out. -/
theorem nextEvent (slots : Slots tcp) (network : Network ν) :
    Slots (tcp.nextEvent network).2 := by
  -- The queue may be empty, begin with an end, or begin with anything else.
  unfold Tcp.nextEvent
  split
  · exact slots
  · rename_i id rest first
    refine slots.erase (fixed_close fixed_maxClients network _ id) (connections_close ..) ?_
    -- The end that is handed out is that of no other connection.
    intro other apart queued
    rw [first] at queued
    rw [events_close]
    simpa [apart] using queued
  · -- What is handed out is not an end, so all of those stay in the queue.
    rename_i event rest different first
    refine ⟨slots.distinct, slots.few, fun entry member unread => ?_⟩
    have queued := slots.announced entry member unread
    rw [first, List.mem_cons] at queued
    exact queued.resolve_left fun same => different entry.1 same.symm

/-- It is given up when the caller closes the connection, too. -/
theorem disconnect (slots : Slots tcp) (network : Network ν) (id : ConnectionId) :
    Slots (Tcp.disconnect network id tcp) := by
  -- A connection that is not known has no place to be given up.
  unfold Tcp.disconnect
  split
  · refine slots.erase (fixed_close fixed_maxClients network tcp id) (connections_close ..) ?_
    -- Only events of this connection are dropped with it.
    intro other apart queued
    simp only [events_close]
    exact List.mem_filter.mpr ⟨queued, decide_eq_true apart⟩
  · exact slots

/-- Sending takes no place and gives none up. -/
theorem send (slots : Slots tcp) (network : Network ν) (id : ConnectionId) (packet : Bytes) :
    Slots (Tcp.send network id packet tcp).2 :=
  -- Neither the entries nor the queue is changed by a write.
  slots.congr (fixed_send fixed_maxClients network id packet tcp) (send_keeps ..).2
    (send_keeps ..).1

end Slots

end Tcp

end CallGate
