import CallGate.Proofs.Transport.Occupancy

/-! How many bytes of a connection are held, and that no bytes wait in a socket for nothing. -/

namespace CallGate

namespace Frame

/-- What belongs to no complete frame yet is shorter than a largest frame. -/
theorem Parse.length_rest_lt {stream rest : Bytes} {packets : List Bytes}
    (parse : Parse stream packets rest none) : rest.length < maxLength + headerLength := by
  generalize going : (none : Option Nat) = invalid at parse
  -- The cases are the ways in which a parse stops without an error.
  induction parse with
  | short stream few =>
    rw [headerLength, maxLength] at *
    omega
  | invalid header rest four bad => cases going
  | incomplete header rest length announced few =>
    -- The header is whole, and of the packet at least one byte is not there.
    obtain ⟨four, _, _, small⟩ := announced
    rw [List.length_append]
    omega
  | frame header packet announced tail ih => exact ih going

/-- Nothing is left but bytes of the stream. -/
theorem Parse.length_rest_le {stream rest : Bytes} {packets : List Bytes} {invalid : Option Nat}
    (parse : Parse stream packets rest invalid) : rest.length ≤ stream.length := by
  -- Only a frame makes the rest shorter. Otherwise all of the stream is left.
  induction parse with
  | frame header packet announced tail ih =>
    rw [List.length_append]
    omega
  | _ => exact Nat.le_refl _

/-- As many bytes as a largest frame has hold a frame or an invalid header. -/
theorem Parse.comes_of_long {stream rest : Bytes} {packets : List Bytes} {invalid : Option Nat}
    (parse : Parse stream packets rest invalid) (long : maxLength + headerLength ≤ stream.length) :
    packets ≠ [] ∨ invalid.isSome = true := by
  -- An invalid header is one of the two, so there is none to be assumed.
  cases invalid with
  | some length => exact .inr rfl
  | none =>
    refine .inl fun nothing => ?_
    subst nothing
    -- Without a frame all of the stream is left, and that would be too much.
    cases parse with
    | short few =>
      rw [headerLength] at *
      omega
    | incomplete header rest length announced few =>
      have small := (Parse.incomplete header rest length announced few).length_rest_lt
      omega

end Frame

variable {ν : Type}

namespace Tcp

/-- What is read from a socket at one go, when these bytes are held: bytes while there is room for
them, until a reading yields none or there is no room any more. -/
inductive Fills : (inbox : Bytes) → List Reading → Prop
  | emptied (inbox : Bytes) (last : Reading) (nothing : last.bytes = []) : Fills inbox [last]
  | full {inbox : Bytes} (bytes : Bytes) (nonempty : 0 < bytes.length)
    (fits : bytes.length ≤ readSize) (excess : inboxLimit < (inbox ++ bytes).length) :
    Fills inbox [.data bytes nonempty fits]
  | more {inbox : Bytes} (bytes : Bytes) (nonempty : 0 < bytes.length)
    (fits : bytes.length ≤ readSize) (room : (inbox ++ bytes).length ≤ inboxLimit)
    {readings : List Reading} (later : Fills (inbox ++ bytes) readings) :
    Fills inbox (.data bytes nonempty fits :: readings)

namespace Fills

variable {inbox : Bytes} {readings : List Reading}

/-- At no moment more is held than what there is room for and what one reading yields. -/
theorem length_le (fills : Fills inbox readings) (small : inbox.length ≤ inboxLimit)
    {front : List Reading} (part : front <+: readings) :
    (inbox ++ front.flatMap Reading.bytes).length ≤ inboxLimit + readSize := by
  -- Before every reading there is room, and a reading yields no more than it can.
  induction fills generalizing front with
  | emptied inbox last nothing =>
    rcases List.prefix_cons_iff.mp part with rfl | ⟨front, rfl, rest⟩
    · exact Nat.le_add_right_of_le (by simpa using small)
    · obtain rfl := List.prefix_nil.mp rest
      exact Nat.le_add_right_of_le (by simpa [nothing] using small)
  | full bytes nonempty fits excess =>
    rcases List.prefix_cons_iff.mp part with rfl | ⟨front, rfl, rest⟩
    · exact Nat.le_add_right_of_le (by simpa using small)
    · obtain rfl := List.prefix_nil.mp rest
      simpa [Reading.bytes] using Nat.add_le_add small fits
  | more bytes nonempty fits room later ih =>
    rcases List.prefix_cons_iff.mp part with rfl | ⟨front, rfl, rest⟩
    · exact Nat.le_add_right_of_le (by simpa using small)
    · simpa [Reading.bytes] using ih room rest

/-- Reading goes on until a reading yields nothing, if there is room to the end. -/
theorem exists_last (fills : Fills inbox readings)
    (room : (inbox ++ readings.flatMap Reading.bytes).length ≤ inboxLimit) :
    ∃ last, readings.getLast? = some last ∧ last.bytes = [] := by
  -- There are two ways for reading to end, and the other one leaves no room.
  induction fills with
  | emptied inbox last nothing => exact ⟨last, rfl, nothing⟩
  | full bytes nonempty fits excess =>
    refine absurd excess (Nat.not_lt_of_le ?_)
    simpa [Reading.bytes] using room
  | more bytes nonempty fits few later ih =>
    obtain ⟨last, ends, nothing⟩ := ih (by simpa [Reading.bytes] using room)
    exact ⟨last, by rw [List.getLast?_cons, ends]; rfl, nothing⟩

/-- Every reading but the last one takes up room, so there are no more of them. -/
theorem length_readings_le (fills : Fills inbox readings) (small : inbox.length ≤ inboxLimit) :
    readings.length + inbox.length ≤ inboxLimit + 1 := by
  -- What is held grows by one byte at least with every reading but the last.
  induction fills with
  | emptied inbox last nothing =>
    rw [List.length_singleton]
    omega
  | full bytes nonempty fits excess =>
    rw [List.length_singleton]
    omega
  | more bytes nonempty fits room later ih =>
    have rest := ih room
    rw [List.length_append] at rest
    rw [List.length_cons]
    omega

end Fills

/-- Emptying a socket reads in this way. -/
theorem fills_drain (network : Network ν) (socket : Socket) (inbox : Bytes) (active : Bool)
    (state : ν × List Reading) :
    ∃ taken, (drain network.logged socket inbox active state).network.2 = state.2 ++ taken ∧
      Fills inbox taken := by
  -- The first three cases are the readings without bytes, and the fourth leaves no room.
  fun_induction drain network.logged socket inbox active state with
  | case1 inbox active state next came =>
    exact ⟨_, Network.read_logged came, .emptied inbox _ rfl⟩
  | case2 inbox active state next came =>
    exact ⟨_, Network.read_logged came, .emptied inbox _ rfl⟩
  | case3 inbox active state cause next came =>
    exact ⟨_, Network.read_logged came, .emptied inbox _ rfl⟩
  | case4 inbox active state bytes nonempty fits next came full =>
    exact ⟨_, Network.read_logged came, .full bytes nonempty fits full⟩
  | case5 inbox active state bytes nonempty fits next came room ih =>
    obtain ⟨taken, logged, fills⟩ := ih
    refine ⟨_ :: taken, ?_, .more bytes nonempty fits (Nat.not_lt.mp room) fills⟩
    rw [logged, Network.read_logged came, List.append_assoc, List.singleton_append]

/-- What is read in this way is parsed behind what was held. -/
theorem fills_harvest (network : Network ν) (id : ConnectionId) (connection : Connection)
    (now : Instant) (state : ν × List Reading) :
    ∃ taken invalid, Fills connection.inbox taken ∧
      Frame.Parse (connection.inbox ++ taken.flatMap Reading.bytes)
        (harvest network.logged id connection now state).packets
        (harvest network.logged id connection now state).connection.inbox invalid ∧
      (harvest network.logged id connection now state).closed =
        (taken.any Reading.isLast || invalid.isSome) := by
  obtain ⟨taken, invalid, _, noted, parse, closed⟩ :=
    harvest_logged network id connection now state
  obtain ⟨others, logged, fills⟩ :=
    fills_drain network connection.socket connection.inbox false state
  -- The readings that were noted are those of the one socket.
  obtain rfl := List.append_cancel_left (logged.symm.trans noted)
  exact ⟨others, invalid, fills, parse, closed⟩

/-- So it is when a connection is attended that is still read. -/
theorem fills_attend (network : Network ν) (now : Instant) {tcp : Tcp (ν × List Reading)}
    {id : ConnectionId} {connection : Connection}
    (known : tcp.connections.get? id = some connection) (reading : connection.readClosed = false) :
    ∃ taken, (attend network.logged now tcp id).network.2 = tcp.network.2 ++ taken ∧
      Fills connection.inbox taken ∧
      Attended id connection tcp taken (attend network.logged now tcp id) := by
  -- The same readings are described twice: how they were taken, and what they led to.
  obtain ⟨taken, logged, fills⟩ :=
    fills_drain network connection.socket connection.inbox false tcp.network
  obtain ⟨others, _, noted, attended⟩ := attended_attend network now known reading
  have same : (attend network.logged now tcp id).network.2 = tcp.network.2 ++ taken := by
    -- Closing a silent connection reads nothing more.
    simp only [attend, known, reading, Bool.false_eq_true, if_false]
    split
    · exact logged
    · split
      · exact (log_close ..).trans logged
      · exact logged
  obtain rfl := List.append_cancel_left (noted.symm.trans same)
  exact ⟨others, noted, fills, attended⟩

/-- So many bytes of a connection are held, fewer than a largest frame while it is still read. -/
def Held (tcp : Tcp ν) : Prop :=
  ∀ entry ∈ tcp.connections.entries, entry.2.inbox.length ≤ inboxLimit + readSize ∧
    (entry.2.readClosed = false → entry.2.inbox.length < inboxLimit)

/-- Every connection holds no more than before. -/
theorem Held.of_subset {tcp after : Tcp ν} (held : Held tcp)
    (kept : ∀ entry ∈ after.connections.entries, entry ∈ tcp.connections.entries) : Held after :=
  fun entry member => held entry (kept entry member)

/-- Reading a connection leaves less than a frame in its inbox, if it goes on. -/
theorem Held.attend {tcp : Tcp (ν × List Reading)} (held : Held tcp) (network : Network ν)
    (now : Instant) (id : ConnectionId) : Held (Tcp.attend network.logged now tcp id) := by
  -- A connection that is not read holds what it held.
  by_cases unread : ∀ connection, tcp.connections.get? id = some connection →
      connection.readClosed = true
  · rwa [attend_of_unread unread]
  · simp only [Classical.not_forall, Bool.not_eq_true] at unread
    obtain ⟨connection, known, reading⟩ := unread
    intro entry member
    rcases mem_of_mem_attend member with old | ⟨same, found, rfl⟩
    · exact held entry old
    · obtain rfl := Option.some.inj (known.symm.trans found)
      obtain ⟨taken, invalid, fills, parse, closed⟩ :=
        fills_harvest network id connection now tcp.network
      -- There was room before, and one reading may exceed it, but the frames are taken off at once.
      have small := (held _ (Connections.mem_of_get? known)).2 reading
      have most := fills.length_le (Nat.le_of_lt small) List.prefix_rfl
      refine ⟨Nat.le_trans parse.length_rest_le most, fun going => ?_⟩
      -- A connection that goes on keeps to the framing.
      have going : (harvest network.logged id connection now tcp.network).closed = false := going
      rw [closed, Bool.or_eq_false_iff, Option.isSome_eq_false_iff,
        Option.isNone_iff_eq_none] at going
      obtain ⟨_, rfl⟩ := going
      exact parse.length_rest_lt

/-- Nothing but reading a connection makes more of its bytes be held. -/
theorem Held.turn {tcp : Tcp (ν × List Reading)} (held : Held tcp) (network : Network ν)
    (first : Turn ν) : Held (Tcp.turn network first tcp).2 := by
  have erased {after : Tcp (ν × List Reading)} {id : ConnectionId}
      (connections : after.connections = tcp.connections.erase id) : Held after :=
    held.of_subset fun entry member => by
      rw [connections] at member
      exact Connections.mem_of_mem_erase member
  -- The cases are the turns, most of which leave every inbox alone.
  cases first with
  | accept now =>
    -- Whoever is new has sent nothing yet.
    intro entry member
    rcases (admits_accept network.logged now tcp).entered entry member with old | ⟨_, empty⟩
    · exact held entry old
    · simp [empty, inboxLimit, Frame.headerLength]
  | attend now id => exact held.attend network now id
  | next =>
    rw [Tcp.turn, nextEvent]
    split
    · exact held
    · exact erased (connections_close ..)
    · exact held
  | send id packet =>
    exact held.of_subset fun entry member => (send_keeps ..).2 ▸ member
  | disconnect id => exact erased (connections_disconnect ..)
  | world change => exact held

section Attending

variable {network : Network ν} {now : Instant} {tcp after : Tcp (ν × List Reading)}
  {id : ConnectionId} {connection : Connection} {taken : List Reading}

/-- When as much is held as a largest frame takes, a packet is queued or the connection is
closed. -/
theorem Attended.comes_of_long (attended : Attended id connection tcp taken after)
    (long : inboxLimit ≤ (connection.inbox ++ taken.flatMap Reading.bytes).length) :
    ∃ more, after.events = tcp.events ++ more ∧
      ((∃ packet, .received id packet ∈ more) ∨
        .disconnected id ∈ more ∧
          ∃ kept, after.connections.get? id = some kept ∧ kept.readClosed = true) := by
  -- Only an invalid header keeps the frames of so many bytes from being complete.
  cases attended with
  | going packets kept after parse more queued known reading =>
    have some := (parse.comes_of_long long).resolve_right (by simp)
    obtain ⟨packet, among⟩ := List.exists_mem_of_ne_nil packets some
    exact ⟨_, queued, .inl ⟨packet, List.mem_map_of_mem among⟩⟩
  | closed packets kept invalid after parse finished queued known unread =>
    rw [List.append_assoc] at queued
    exact ⟨_, queued, .inr ⟨by simp, kept, known, unread⟩⟩
  | timedOut packets rest after parse more queued gone =>
    have some := (parse.comes_of_long long).resolve_right (by simp)
    obtain ⟨packet, among⟩ := List.exists_mem_of_ne_nil packets some
    rw [List.append_assoc] at queued
    exact ⟨_, queued, .inl ⟨packet, List.mem_append_left _ (List.mem_map_of_mem among)⟩⟩

/-- A connection of which nothing is queued was read until nothing was there any more. -/
theorem Attended.getLast?_of_quiet (attended : Attended id connection tcp taken after)
    (fills : Fills connection.inbox taken) (quiet : after.events = tcp.events) :
    taken.getLast? = some .wouldBlock := by
  cases attended with
  | going packets kept after parse more queued known reading =>
    have nothing : packets = [] := by simpa [quiet] using queued.symm
    subst nothing
    -- No frame is complete, so there was room for more bytes, and none came.
    have short : (connection.inbox ++ taken.flatMap Reading.bytes).length ≤ inboxLimit := by
      by_contra excess
      have long : inboxLimit ≤ (connection.inbox ++ taken.flatMap Reading.bytes).length := by
        omega
      simpa using parse.comes_of_long long
    obtain ⟨last, ends, empty⟩ := fills.exists_last short
    have going : last.isLast = false :=
      Bool.eq_false_iff.mpr (List.any_eq_false.mp more last (List.mem_of_getLast? ends))
    -- Of the readings without bytes, only one leaves the connection as it is.
    cases last with
    | data bytes nonempty fits => exact absurd nonempty (by simp [show bytes = [] from empty])
    | wouldBlock => exact ends
    | ended => cases going
    | failed cause => cases going
  | closed packets kept invalid after parse finished queued known unread =>
    simp [quiet] at queued
  | timedOut packets rest after parse more queued gone =>
    simp [quiet] at queued

end Attending

/-- Reading connections queues events behind those that are there. -/
theorem prefix_attends (network : Network ν) (now : Instant) (ids : List ConnectionId)
    (tcp : Tcp ν) : tcp.events <+: (ids.foldl (attend network now) tcp).events := by
  -- Each reading adds events at the end.
  induction ids generalizing tcp with
  | nil => exact List.prefix_rfl
  | cons id ids ih =>
    obtain ⟨more, queued, _⟩ := attend_keeps network now tcp id
    exact (queued ▸ List.prefix_append tcp.events more).trans (ih _)

/-- Reading connections enters none. -/
theorem mem_keys_of_attends (network : Network ν) (now : Instant) (ids : List ConnectionId)
    {tcp : Tcp ν} {id : ConnectionId}
    (stays : id ∈ (ids.foldl (attend network now) tcp).connections.keys) :
    id ∈ tcp.connections.keys := by
  -- Reading puts back an entry that was there, if any.
  induction ids generalizing tcp with
  | nil => exact stays
  | cons other ids ih =>
    obtain ⟨entry, member, rfl⟩ := List.mem_map.mp (ih stays)
    rcases mem_of_mem_attend member with old | ⟨connection, known, rfl⟩
    · exact List.mem_map_of_mem old
    · exact Connections.mem_keys_iff.mpr ⟨connection, known⟩

/-- What is read from a connection while others are. -/
theorem heard_attends_of_notMem (network : Network ν) (now : Instant) {ids : List ConnectionId}
    {id : ConnectionId} (other : id ∉ ids) (tcp : Tcp (ν × List Reading)) :
    heard network id (ids.map (.attend now)) tcp = [] := by
  -- Each of the readings is of another connection.
  induction ids generalizing tcp with
  | nil => rfl
  | cons first ids ih =>
    rw [List.mem_cons, not_or] at other
    rw [List.map_cons, heard, heardIn, if_neg (Ne.symm other.1), ih other.2]
    rfl

/-- When connections were read and nothing is queued, each that is still there was read until
nothing was there any more. -/
theorem getLast?_heard_attends {network : Network ν} {now : Instant} {ids : List ConnectionId}
    {tcp : Tcp (ν × List Reading)} (slots : Slots tcp)
    (empty : (ids.foldl (attend network.logged now) tcp).events = []) {id : ConnectionId}
    (among : id ∈ ids)
    (stays : id ∈ (ids.foldl (attend network.logged now) tcp).connections.keys) :
    (heard network id (ids.map (.attend now)) tcp).getLast? = some .wouldBlock := by
  -- The induction finds the last time that the connection is read. Events are only added, so
  -- nothing was queued by then.
  induction ids generalizing tcp with
  | nil => cases among
  | cons first ids ih =>
    rw [List.map_cons, heard, List.getLast?_append]
    by_cases later : id ∈ ids
    · rw [show turn network (.attend now first) tcp = (none, attend network.logged now tcp first)
        from rfl, ih (slots.attend network.logged now first) empty later stays]
      rfl
    · -- This is the last time that the connection is read.
      obtain rfl : id = first := (List.mem_cons.mp among).resolve_right later
      have quiet : (attend network.logged now tcp id).events = [] :=
        List.prefix_nil.mp (empty ▸ prefix_attends network.logged now ids _)
      have before : tcp.events = [] := by
        obtain ⟨more, queued, _⟩ := attend_keeps network.logged now tcp id
        exact (List.append_eq_nil_iff.mp (queued.symm.trans quiet)).1
      obtain ⟨connection, known⟩ := Connections.mem_keys_iff.mp
        (mem_keys_of_attends network.logged now (id :: ids) stays)
      have reading := slots.reading before _ (Connections.mem_of_get? known)
      obtain ⟨taken, logged, fills, attended⟩ := fills_attend network now known reading
      have last := attended.getLast?_of_quiet fills (quiet.trans before.symm)
      rw [heard_attends_of_notMem network now later, heardIn, if_pos rfl]
      simp only [turn, logged, List.drop_left, last]
      rfl

/-- The same of a pump. -/
theorem getLast?_heard_pumping {network : Network ν} {tcp : Tcp (ν × List Reading)}
    (slots : Slots tcp) (empty : (tcp.pump network.logged).events = []) {id : ConnectionId}
    (stays : id ∈ (tcp.pump network.logged).connections.keys) :
    (heard network id (pumping network tcp) tcp).getLast? = some .wouldBlock := by
  -- The pump reads the clock and accepts before it reads connections, and all have been open so
  -- far.
  have clocked : Slots (tcp.clock network.logged).2 := slots.congr rfl rfl rfl
  have accepted := clocked.accept network.logged (tcp.clock network.logged).1
  exact getLast?_heard_attends accepted empty (mem_keys_of_attends _ _ _ stays) stays

/-- However peers cut their streams, fewer bytes of an open connection are held than a largest frame
has, and never more than one reading above that. Whenever reading stops because there is no room
for more, a packet is queued or the connection is closed, and a pump after which nothing is queued
has read every connection until nothing was there any more. -/
theorem inbox_of_turns (network : Network ν) (turns : List (Turn ν)) (state : ν)
    (maxClients : UInt64) (idleTimeout : Duration) (patience : Nat) :
    let start : Tcp (ν × List Reading) :=
      { network := (state, []), maxClients, idleTimeout, patience }
    let tcp := (run network turns start).2
    (∀ entry ∈ tcp.connections.entries, entry.2.inbox.length ≤ 4100 + 1024 ∧
      (entry.2.readClosed = false → entry.2.inbox.length ≤ 4099)) ∧
    (∀ now id connection, tcp.connections.get? id = some connection →
      connection.readClosed = false →
      let taken := heardIn network id (.attend now id) tcp
      let after := (turn network (.attend now id) tcp).2
      (∀ front, front <+: taken →
        (connection.inbox ++ front.flatMap Reading.bytes).length ≤ 4100 + 1024) ∧
      taken.length + connection.inbox.length ≤ 4101 ∧
      ((∃ last, taken.getLast? = some last ∧ last.bytes = []) ∨
        4100 < (connection.inbox ++ taken.flatMap Reading.bytes).length) ∧
      (4100 < (connection.inbox ++ taken.flatMap Reading.bytes).length →
        ∃ more, after.events = tcp.events ++ more ∧
          ((∃ packet, .received id packet ∈ more) ∨
            .disconnected id ∈ more ∧
              ∃ kept, after.connections.get? id = some kept ∧ kept.readClosed = true))) ∧
    -- A pump is made of such turns, and leaves nothing in a socket without leaving an event.
    (run network (pumping network tcp) tcp = ([], tcp.pump network.logged) ∧
      ((tcp.pump network.logged).events = [] →
        ∀ id ∈ (tcp.pump network.logged).connections.keys,
          (heard network id (pumping network tcp) tcp).getLast? = some .wouldBlock)) ∧
    -- So is everything that is asked of a transport.
    ∀ asks : List (Ask ν), ∃ turns : List (Turn ν),
      respondAll network asks { network := state, maxClients, idleTimeout, patience } =
        Prod.map id bare (run network turns start) := by
  -- Both invariants hold at the start, and every turn keeps them.
  intro start tcp
  have held : Held tcp := run_keeps network (fun first _ held => held.turn network first) turns
    fun _ member => by cases member
  have slots : Slots tcp := run_keeps network (fun first _ => Slots.turn network first) turns
    (.start (state, []) maxClients idleTimeout patience)
  refine ⟨fun entry member => ?_, fun now id connection known reading => ?_,
    ⟨run_pumping network tcp, fun empty id => getLast?_heard_pumping slots empty⟩,
    fun asks => ?_⟩
  -- What is held is bounded by the invariant, more tightly while the connection is read.
  · obtain ⟨most, fewer⟩ := held entry member
    exact ⟨most, fun reading => Nat.le_of_lt_succ (fewer reading)⟩
  · have small := (held _ (Connections.mem_of_get? known)).2 reading
    obtain ⟨taken, logged, fills, attended⟩ := fills_attend network now known reading
    -- What is read in the turn is what the log of readings has gained.
    have heard : heardIn network id (.attend now id) tcp = taken := by
      simp only [heardIn, turn, logged, if_true, List.drop_left]
    rw [heard]
    refine ⟨fun front part => fills.length_le (Nat.le_of_lt small) part,
      fills.length_readings_le (Nat.le_of_lt small), ?_,
      fun excess => attended.comes_of_long (Nat.le_of_lt excess)⟩
    exact (Nat.lt_or_ge 4100 _).symm.imp_left fills.exists_last
  -- Everything that is asked is made of turns, of which the log is left out.
  · obtain ⟨turns, ran, _⟩ := exists_turns network asks start
    exact ⟨turns, ran ▸ bare_respondAll network.logged_mirrors asks start⟩

/-- A largest frame comes with one byte behind it. Reading stops as there is no room for more, and
the packet is queued. -/
theorem inbox_of_largest_frame :
    let peer : SocketAddress := { ip := .v4 ⟨127, 0, 0, 1⟩, port := 40000 }
    let stream : Bytes := [0, 16, 0, 0] ++ List.replicate 4096 7 ++ [1]
    let wire : Wire := { streams := [{ client := peer, toServer := stream }], backlog := [0] }
    let start : Tcp (Wire × List Reading) :=
      { network := (wire, []), maxClients := 1, idleTimeout := ⟨1000⟩, patience := 3 }
    let connection : Connection :=
      { socket := 0, peer, inbox := [], lastActivity := ⟨0⟩, readClosed := false }
    let tcp := (run Wire.network [.accept ⟨0⟩] start).2
    let taken := heardIn Wire.network ⟨1⟩ (.attend ⟨0⟩ ⟨1⟩) tcp
    let after := (turn Wire.network (.attend ⟨0⟩ ⟨1⟩) tcp).2
    tcp.connections.get? ⟨1⟩ = some connection ∧ connection.readClosed = false ∧
      4100 < (connection.inbox ++ taken.flatMap Reading.bytes).length ∧
      (∃ more, after.events = tcp.events ++ more ∧
        ((∃ packet, .received ⟨1⟩ packet ∈ more) ∨ .disconnected ⟨1⟩ ∈ more ∧
          ∃ kept, after.connections.get? ⟨1⟩ = some kept ∧ kept.readClosed = true)) ∧
      (after.connections.get? ⟨1⟩).map (·.inbox) = some [1] := by
  intro peer stream wire start connection tcp taken after
  -- The readings of the two turns are computed.
  obtain ⟨known, excess, left⟩ : tcp.connections.get? ⟨1⟩ = some connection ∧
      4100 < (connection.inbox ++ taken.flatMap Reading.bytes).length ∧
      (after.connections.get? ⟨1⟩).map (·.inbox) = some [1] := by
    decide +kernel
  obtain ⟨_, moment, _⟩ := inbox_of_turns Wire.network [.accept ⟨0⟩] wire 1 ⟨1000⟩ 3
  obtain ⟨_, _, _, comes⟩ := moment ⟨0⟩ ⟨1⟩ connection known rfl
  exact ⟨known, rfl, excess, comes excess, left⟩

end Tcp

end CallGate
