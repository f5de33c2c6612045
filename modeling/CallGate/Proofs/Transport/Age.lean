import CallGate.Proofs.Transport.Concord
import CallGate.Proofs.Transport.Gauge
import CallGate.Proofs.Transport.Grammar

/-! While a transport goes on, time is told, and connections are active when it is. -/

namespace CallGate

variable {ν : Type}

namespace Connections

variable {α : Type} {id : ConnectionId} {value : α} {entry : ConnectionId × α}

/-- An entry that is found is in the table. -/
theorem mem_of_get? {table : Connections α} (found : table.get? id = some value) :
    (id, value) ∈ table.entries := by
  -- The statement is about the list of entries, on which the search recurses.
  have among (entries : List (ConnectionId × α)) (found : find id entries = some value) :
      (id, value) ∈ entries := by
    -- The search stops at the first entry of the connection, and there it is.
    induction entries with
    | nil => cases found
    | cons entry rest ih =>
      obtain ⟨key, old⟩ := entry
      simp only [find] at found
      split at found
      · rename_i same
        cases found
        exact same ▸ List.mem_cons_self
      · exact List.mem_cons_of_mem _ (ih found)
  exact among table.entries found

/-- The only entry that is new in a table is the one that was put in. -/
theorem mem_insert {table : Connections α} (member : entry ∈ (table.insert id value).entries) :
    entry = (id, value) ∨ entry ∈ table.entries := by
  have among (entries : List (ConnectionId × α)) (member : entry ∈ put id value entries) :
      entry = (id, value) ∨ entry ∈ entries := by
    -- The entry takes the place of one with its key, or the place behind all others.
    induction entries with
    | nil => exact .inl (List.mem_singleton.mp member)
    | cons first rest ih =>
      obtain ⟨key, old⟩ := first
      simp only [put] at member
      split at member
      · rename_i same
        rcases List.mem_cons.mp member with here | later
        · exact .inl (same ▸ here)
        · exact .inr (List.mem_cons_of_mem _ later)
      · rcases List.mem_cons.mp member with here | later
        · exact .inr (here ▸ List.mem_cons_self)
        · exact (ih later).imp_right (List.mem_cons_of_mem _)
  exact among table.entries member

/-- Removing an entry brings none in. -/
theorem mem_of_mem_erase {table : Connections α} (member : entry ∈ (table.erase id).entries) :
    entry ∈ table.entries :=
  List.mem_of_mem_filter member

end Connections

/-- The same machine, keeping the latest time it has told next to its own state. -/
def Network.timed (network : Network ν) : Network (ν × Nat) where
  __ := network.beside _
  now state :=
    let (now, inner) := network.now state.1
    (now, inner, max state.2 now.nanoseconds)

/-- Keeping the time changes nothing in what the machine does. -/
theorem Network.timed_mirrors (network : Network ν) : network.timed.Mirrors network where
  -- What is noted stands beside the machine and is not looked at.
  now _ := rfl
  arrivals _ := rfl
  read _ _ := rfl
  write _ _ _ := rfl
  shutdown _ _ := rfl
  wait _ _ _ _ := rfl

/-- No socket tells a time. -/
theorem Network.timed_leaves (network : Network ν) : network.timed.Leaves Prod.snd where
  -- Only the clock notes a time, and the sockets have none.
  read _ _ := rfl
  write _ _ _ := rfl
  shutdown _ _ := rfl

namespace Tcp

/-- Closing a connection brings no entry in. -/
theorem mem_of_mem_close {network : Network ν} {tcp : Tcp ν} {id : ConnectionId}
    {entry : ConnectionId × Connection}
    (member : entry ∈ (close network tcp id).connections.entries) :
    entry ∈ tcp.connections.entries := by
  -- There may be no entry to take away.
  unfold close at member
  split at member
  · exact member
  · exact Connections.mem_of_mem_erase member

/-- The only entry that reading a connection brings in is what the reading makes of its own. -/
theorem mem_of_mem_attend {network : Network ν} {now : Instant} {tcp : Tcp ν}
    {id : ConnectionId} {entry : ConnectionId × Connection}
    (member : entry ∈ (attend network now tcp id).connections.entries) :
    entry ∈ tcp.connections.entries ∨ ∃ connection,
      tcp.connections.get? id = some connection ∧
        entry = (id, { (harvest network id connection now tcp.network).connection with
          readClosed := (harvest network id connection now tcp.network).closed }) := by
  -- A connection that is unknown or read to its end is not read at all.
  unfold attend at member
  split at member
  · exact .inl member
  · rename_i connection known
    split at member
    · exact .inl member
    · -- The connection is put back, and whatever becomes of it then brings no other one in.
      suffices put : entry ∈ (tcp.connections.insert id
          { (harvest network id connection now tcp.network).connection with
            readClosed := (harvest network id connection now tcp.network).closed }).entries from
        (Connections.mem_insert put).symm.imp_right fun same => ⟨connection, known, same⟩
      simp only at member
      split at member
      · exact member
      · split at member
        · exact mem_of_mem_close member
        · exact member

/-- Reading a connection marks none as active but at the time of the reading. -/
theorem lastActivity_attend {network : Network ν} {now : Instant} {tcp : Tcp ν}
    {id : ConnectionId} {entry : ConnectionId × Connection}
    (member : entry ∈ (attend network now tcp id).connections.entries) :
    entry.2.lastActivity = now ∨
      ∃ old ∈ tcp.connections.entries, entry.2.lastActivity = old.2.lastActivity := by
  -- The entry is an old one, or that of the connection that is read.
  rcases mem_of_mem_attend member with old | ⟨connection, known, rfl⟩
  · exact .inr ⟨entry, old, rfl⟩
  · -- The entry is that of the connection, which is marked if any bytes came.
    simp only [harvest]
    split
    · exact .inl rfl
    · exact .inr ⟨_, Connections.mem_of_get? known, rfl⟩

/-- The latest time the machine tells while a transport is asked one thing after the other. -/
def latest (network : Network ν) (asks : List (Ask ν)) (tcp : Tcp ν) : Nat :=
  (respondAll network.timed (asks.map Ask.beside) (tcp.beside 0)).2.network.2

/-- Every connection was active last at a time that has been told, and an accept pause began at
one. -/
structure Told (tcp : Tcp (ν × Nat)) : Prop where
  active (entry : ConnectionId × Connection) (member : entry ∈ tcp.connections.entries) :
    entry.2.lastActivity.nanoseconds ≤ tcp.network.2
  paused (reopening : Instant) (pause : tcp.acceptPausedUntil = some reopening) :
    reopening.nanoseconds ≤ tcp.network.2 + acceptBackoff.nanoseconds

/-- How long silence may last, and how long nobody is accepted. -/
def timing {α : Type} (tcp : Tcp α) : Duration × Option Instant :=
  (tcp.idleTimeout, tcp.acceptPausedUntil)

/-- No event changes either of the two. -/
theorem fixed_timing {α : Type} : Fixed fun tcp : Tcp α => tcp.timing := fun _ _ _ _ _ => rfl

/-- A transport goes on. Silence may last as long as before, and times that are told are later. -/
structure Ages (tcp after : Tcp (ν × Nat)) : Prop where
  idleTimeout : after.idleTimeout = tcp.idleTimeout
  later : tcp.network.2 ≤ after.network.2
  told : tcp.Told → after.Told

namespace Ages

variable {network : Network ν} {tcp middle after : Tcp (ν × Nat)}

/-- Nothing happens. -/
theorem refl (tcp : Tcp (ν × Nat)) : Ages tcp tcp := ⟨rfl, Nat.le_refl _, id⟩

/-- One thing happens after the other. -/
theorem trans (front : Ages tcp middle) (back : Ages middle after) : Ages tcp after where
  idleTimeout := back.idleTimeout.trans front.idleTimeout
  -- The later part goes on from what the earlier one has left.
  later := Nat.le_trans front.later back.later
  told told := back.told (front.told told)

/-- No connection is entered or active meanwhile, and no pause begins. -/
theorem of_subset (timing : after.timing = tcp.timing) (later : tcp.network.2 ≤ after.network.2)
    (kept : ∀ entry ∈ after.connections.entries, entry ∈ tcp.connections.entries) :
    Ages tcp after where
  idleTimeout := congrArg Prod.fst timing
  later := later
  -- Every entry and the pause are old ones, and the time to compare them with is a later one.
  told told := {
    active := fun entry member => Nat.le_trans (told.active entry (kept entry member)) later
    paused := fun reopening pause => Nat.le_trans
      (told.paused reopening ((congrArg Prod.snd timing).symm.trans pause))
      (Nat.add_le_add_right later _) }

/-- No time is told, either. -/
theorem still (timing : after.timing = tcp.timing) (told : after.network.2 = tcp.network.2)
    (connections : after.connections = tcp.connections) : Ages tcp after :=
  -- Nothing has changed that could be older or newer than before.
  .of_subset timing (Nat.le_of_eq told.symm) fun _ member => connections ▸ member

/-- The clock may tell a later time, and nothing else happens. -/
theorem clock (network : Network ν) (tcp : Tcp (ν × Nat)) :
    Ages tcp (tcp.clock network.timed).2 :=
  .of_subset rfl (Nat.le_max_left ..) fun _ member => member

/-- No time is told by waiting itself. -/
theorem rest (network : Network ν) (tcp : Tcp (ν × Nat)) (span : Duration) :
    Ages tcp (tcp.rest network.timed span) :=
  .still rfl rfl rfl

/-- Closing a connection only takes its entry away. -/
theorem close (network : Network ν) (tcp : Tcp (ν × Nat)) (id : ConnectionId) :
    Ages tcp (tcp.close network.timed id) :=
  -- Closing moves neither the timing nor the time that was told.
  .of_subset (fixed_close fixed_timing network.timed tcp id)
    (Nat.le_of_eq (measure_close network.timed_leaves tcp id).symm) fun _ => mem_of_mem_close

/-- Handing out an event closes one connection, at most. -/
theorem nextEvent (network : Network ν) (tcp : Tcp (ν × Nat)) :
    Ages tcp (tcp.nextEvent network.timed).2 := by
  -- An empty queue, the report of a close, or any other event.
  unfold Tcp.nextEvent
  split
  · exact .refl tcp
  · -- The report of a close releases its connection.
    rename_i id rest _
    have taken : Ages tcp { tcp with events := rest } := .still rfl rfl rfl
    exact taken.trans (close network _ id)
  · exact .still rfl rfl rfl

/-- So does the caller. -/
theorem disconnect (network : Network ν) (id : ConnectionId) (tcp : Tcp (ν × Nat)) :
    Ages tcp (Tcp.disconnect network.timed id tcp) := by
  -- Without an entry there is nothing to close.
  unfold Tcp.disconnect
  split
  · exact (close network tcp id).trans (.still rfl rfl rfl)
  · exact .refl tcp

/-- Sending asks the machine for nothing but the write. -/
theorem send (network : Network ν) (id : ConnectionId) (packet : Bytes) (tcp : Tcp (ν × Nat)) :
    Ages tcp (Tcp.send network.timed id packet tcp).2 := by
  -- The write is no question for the time.
  have measured := measure_send network.timed_leaves id packet tcp
  exact .still (fixed_send fixed_timing network.timed id packet tcp) measured
    (send_keeps ..).2

variable {now : Instant}

/-- A pump takes in peers and reads connections at a time that has been told. -/
theorem takeIn (network : Network ν) (told : now.nanoseconds ≤ tcp.network.2)
    (arrival : Arrival) : Ages tcp (Tcp.takeIn network.timed now tcp arrival) := by
  -- A peer that is turned away is not entered.
  unfold Tcp.takeIn
  split
  · exact .still rfl rfl rfl
  · refine ⟨rfl, Nat.le_refl _, fun before => ⟨fun entry member => ?_, before.paused⟩⟩
    -- A peer that is taken in counts as active at that time.
    rcases Connections.mem_insert member with rfl | old
    · exact told
    · exact before.active entry old

/-- So does taking in everyone who waits. -/
theorem takeIns (network : Network ν) (told : now.nanoseconds ≤ tcp.network.2)
    (peers : List Arrival) :
    Ages tcp (peers.foldl (Tcp.takeIn network.timed now) tcp) := by
  -- Each peer is taken in at the time that was told before all of them.
  induction peers generalizing tcp with
  | nil => exact .refl tcp
  | cons peer peers ih =>
    have first := takeIn network told peer
    exact first.trans (ih (Nat.le_trans told first.later))

/-- Accepting ends a pause, and a failure of the listener begins one at that time. -/
theorem accept (network : Network ν) (told : now.nanoseconds ≤ tcp.network.2) :
    Ages tcp (tcp.accept network.timed now) := by
  by_cases accepting : tcp.accepting now
  · -- The listener answers, then the peers are taken in.
    have asked : Ages tcp { tcp with
        network := (network.timed.arrivals tcp.network).2, acceptPausedUntil := none } :=
      ⟨rfl, Nat.le_refl _, fun before => ⟨before.active, fun _ pause => by cases pause⟩⟩
    have taken := asked.trans (takeIns network (Nat.le_trans told asked.later)
      (network.timed.arrivals tcp.network).1.peers)
    simp only [Tcp.accept, accepting, if_true]
    -- A failing listener pauses, counted from the time at which the pump began.
    split
    · exact taken
    · refine ⟨taken.idleTimeout, taken.later, fun before => ⟨(taken.told before).active, ?_⟩⟩
      intro reopening pause
      cases pause
      exact Nat.add_le_add_right (Nat.le_trans told taken.later) _
  · simp only [Tcp.accept, accepting, Bool.false_eq_true, if_false]
    exact .refl tcp

/-- Reading a connection marks it as active at that time, at most. -/
theorem attend (network : Network ν) (told : now.nanoseconds ≤ tcp.network.2)
    (id : ConnectionId) : Ages tcp (Tcp.attend network.timed now tcp id) := by
  -- Neither the timing nor the time is changed by reading, only the entries are.
  have timing := fixed_attend fixed_timing network.timed now tcp id
  have measured := measure_attend network.timed_leaves now tcp id
  refine ⟨congrArg Prod.fst timing, Nat.le_of_eq measured.symm, fun before => ?_⟩
  -- No time is told while the connection is read, so those told before it are all there are.
  constructor
  case active =>
    intro entry member
    rw [measured]
    rcases lastActivity_attend member with same | ⟨old, known, same⟩
    · exact same ▸ told
    · exact same ▸ before.active old known
  case paused =>
    intro reopening pause
    rw [measured]
    exact before.paused reopening ((congrArg Prod.snd timing).symm.trans pause)

/-- So does reading one after the other. -/
theorem attends (network : Network ν) (told : now.nanoseconds ≤ tcp.network.2)
    (ids : List ConnectionId) : Ages tcp (ids.foldl (Tcp.attend network.timed now) tcp) := by
  -- Each connection is read at the time that was told before all of them.
  induction ids generalizing tcp with
  | nil => exact .refl tcp
  | cons id ids ih =>
    have first := attend network told id
    exact first.trans (ih (Nat.le_trans told first.later))

/-- A pump tells one time, at which everything in it happens. -/
theorem pump (network : Network ν) (tcp : Tcp (ν × Nat)) :
    Ages tcp (tcp.pump network.timed) := by
  have told : (tcp.clock network.timed).1.nanoseconds ≤ (tcp.clock network.timed).2.network.2 :=
    Nat.le_max_right ..
  -- All that the pump does happens at the time it was told first.
  have accepted := accept network told
  exact (clock network tcp).trans
    (accepted.trans (attends network (Nat.le_trans told accepted.later) _))

/-- However often a poll wakes up, time goes on. -/
theorem pollUntil (network : Network ν) (deadline : Instant) (wakeups : Nat)
    (tcp : Tcp (ν × Nat)) : Ages tcp (Tcp.pollUntil network.timed deadline wakeups tcp).2 := by
  -- A poll is made of clocks, rests and pumps, and each of them lets time go on.
  obtain ⟨last, reached, ended⟩ := ended_pollUntil network.timed (Ages tcp)
    (fun middle front => front.trans (clock network middle))
    (fun middle span front => front.trans (rest network middle span))
    (fun middle _ front => front.trans (pump network middle)) deadline wakeups (.refl tcp)
  -- Handing out an event is all that happens after the last state.
  exact ended.keeps reached fun front => front.trans (nextEvent network last)

/-- The time at which a poll starts is told first. -/
theorem poll_of_clock (network : Network ν) (wait : Duration) (tcp : Tcp (ν × Nat)) :
    Ages (tcp.clock network.timed).2 (Tcp.poll network.timed wait tcp).2 := by
  -- Only a deadline that is out of range keeps the poll from going on.
  unfold Tcp.poll
  simp only
  split
  · exact .refl _
  · exact pollUntil network _ _ _

/-- Time goes on during a whole poll. -/
theorem poll (network : Network ν) (wait : Duration) (tcp : Tcp (ν × Nat)) :
    Ages tcp (Tcp.poll network.timed wait tcp).2 :=
  -- The clock is read first, whatever the poll does then.
  (clock network tcp).trans (poll_of_clock network wait tcp)

/-- Time goes on whatever is asked. -/
theorem respond (network : Network ν) (ask : Ask ν) (tcp : Tcp (ν × Nat)) :
    Ages tcp (Tcp.respond network.timed ask.beside tcp).2 := by
  -- The cases are what can be asked.
  cases ask with
  | poll wait => exact poll network wait tcp
  | send id packet => exact send network id packet tcp
  | disconnect id => exact disconnect network id tcp
  | world change => exact .still rfl rfl rfl

/-- So it does through everything that is asked. -/
theorem respondAll (network : Network ν) (asks : List (Ask ν)) (tcp : Tcp (ν × Nat)) :
    Ages tcp (Tcp.respondAll network.timed (asks.map Ask.beside) tcp).2 := by
  -- One thing is asked after the other.
  induction asks generalizing tcp with
  | nil => exact .refl tcp
  | cons ask asks ih => exact (respond network ask tcp).trans (ih _)

end Ages

end Tcp

end CallGate
