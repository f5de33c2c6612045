import CallGate.Proofs.Transport.Frame
import CallGate.Proofs.Transport.Mirror

/-! What a connection reports is the parse of what its peer sent, however it was read. -/

namespace CallGate

variable {ν : Type}

namespace Reading

/-- The bytes that a reading yields. -/
def bytes : Reading → Bytes
  | .data bytes _ _ => bytes
  | _ => []

/-- Nothing comes after the reading: the peer is done, or the socket failed. -/
def isLast : Reading → Bool
  | .data _ _ _ => false
  | .wouldBlock => false
  | .ended => true
  | .failed _ => true

end Reading

/-- The same machine, with every reading noted next to its own state. -/
def Network.logged (network : Network ν) : Network (ν × List Reading) where
  __ := network.beside _
  read socket state :=
    let (reading, inner) := network.read socket state.1
    (reading, inner, state.2 ++ [reading])

/-- A reading that was taken is noted behind those before it. -/
theorem Network.read_logged {network : Network ν} {socket : Socket} {state next : ν × List Reading}
    {reading : Reading} (came : network.logged.read socket state = (reading, next)) :
    next.2 = state.2 ++ [reading] := by
  -- The log is written along with the reading.
  simp only [logged, Prod.mk.injEq] at came
  obtain ⟨rfl, rfl⟩ := came
  rfl

namespace Tcp

/-- Emptying a socket holds on to every byte that it reads, and reads at least once. -/
theorem drain_logged (network : Network ν) (socket : Socket) (inbox : Bytes) (active : Bool)
    (state : ν × List Reading) :
    ∃ taken : List Reading, taken ≠ [] ∧
      (drain network.logged socket inbox active state).network.2 = state.2 ++ taken ∧
      (drain network.logged socket inbox active state).inbox =
        inbox ++ taken.flatMap Reading.bytes ∧
      (drain network.logged socket inbox active state).ended = taken.any Reading.isLast := by
  -- The induction follows the reads: only one that yields bytes may be followed by another.
  fun_induction drain network.logged socket inbox active state with
  -- The socket has nothing to offer, was closed, or failed: the last reading yields no bytes.
  | case1 inbox active state next came =>
    exact ⟨[.wouldBlock], by simp, Network.read_logged came, by simp [Reading.bytes],
      by simp [Reading.isLast]⟩
  | case2 inbox active state next came =>
    exact ⟨[.ended], by simp, Network.read_logged came, by simp [Reading.bytes],
      by simp [Reading.isLast]⟩
  | case3 inbox active state cause next came =>
    exact ⟨[.failed cause], by simp, Network.read_logged came, by simp [Reading.bytes],
      by simp [Reading.isLast]⟩
  -- The inbox is full, so the reading stops with bytes that may be left in the socket.
  | case4 inbox active state bytes nonempty fits next came full =>
    exact ⟨[.data bytes nonempty fits], by simp, Network.read_logged came, by simp [Reading.bytes],
      by simp [Reading.isLast]⟩
  -- There is room for more, and the later readings follow this one.
  | case5 inbox active state bytes nonempty fits next came room ih =>
    obtain ⟨taken, _, logged, held, ended⟩ := ih
    refine ⟨.data bytes nonempty fits :: taken, by simp, ?_, ?_, ?_⟩
    · rw [logged, Network.read_logged came, List.append_assoc, List.singleton_append]
    · rw [held, List.flatMap_cons, Reading.bytes, List.append_assoc]
    · rw [ended, List.any_cons, Reading.isLast, Bool.false_or]

/-- Closing a connection forgets it, and no other one. -/
theorem get?_close (network : Network ν) (tcp : Tcp ν) (id other : ConnectionId) :
    (close network tcp id).connections.get? other =
      if id = other then none else tcp.connections.get? other := by
  -- A connection that is not known is not there to be forgotten.
  unfold close
  cases known : tcp.connections.get? id with
  | none =>
    by_cases same : id = other
    · rw [if_pos same, ← same]
      exact known
    · rw [if_neg same]
  | some connection => exact Connections.get?_erase tcp.connections id other

/-- Closing a connection queues nothing. -/
@[simp] theorem events_close (network : Network ν) (tcp : Tcp ν) (id : ConnectionId) :
    (close network tcp id).events = tcp.events := by
  -- Closing shuts a socket down and removes an entry.
  unfold close
  split <;> rfl

/-- Closing a connection reads nothing. -/
@[simp] theorem log_close (network : Network ν) (tcp : Tcp (ν × List Reading))
    (id : ConnectionId) : (close network.logged tcp id).network.2 = tcp.network.2 := by
  -- The one thing that is asked of the machine is no reading.
  unfold close
  split <;> rfl

/-- What attending a connection that is still read comes to. -/
inductive Attended (id : ConnectionId) (connection : Connection) (tcp : Tcp (ν × List Reading))
    (taken : List Reading) : Tcp (ν × List Reading) → Prop
  /-- The connection goes on with what belongs to no complete frame yet. -/
  | going (packets : List Bytes) (kept : Connection) (after : Tcp (ν × List Reading))
    (parse : Frame.Parse (connection.inbox ++ taken.flatMap Reading.bytes) packets kept.inbox none)
    (more : taken.any Reading.isLast = false)
    (queued : after.events = tcp.events ++ packets.map (.received id))
    (known : after.connections.get? id = some kept)
    (reading : kept.readClosed = false) : Attended id connection tcp taken after
  /-- The peer is done or broke the framing, and that is reported behind every complete frame. -/
  | closed (packets : List Bytes) (kept : Connection) (invalid : Option Nat)
    (after : Tcp (ν × List Reading))
    (parse : Frame.Parse (connection.inbox ++ taken.flatMap Reading.bytes) packets kept.inbox
      invalid)
    (finished : invalid.isSome ∨ taken.any Reading.isLast)
    (queued : after.events = tcp.events ++ packets.map (.received id) ++ [.disconnected id])
    (known : after.connections.get? id = some kept)
    (unread : kept.readClosed = true) : Attended id connection tcp taken after
  /-- The peer was silent for too long. -/
  | timedOut (packets : List Bytes) (rest : Bytes) (after : Tcp (ν × List Reading))
    (parse : Frame.Parse (connection.inbox ++ taken.flatMap Reading.bytes) packets rest none)
    (more : taken.any Reading.isLast = false)
    (queued : after.events = tcp.events ++ packets.map (.received id) ++ [.timedOut id])
    (gone : after.connections.get? id = none) : Attended id connection tcp taken after

/-- A connection that is not read any more is left alone. -/
theorem attend_of_unread {network : Network ν} {now : Instant} {tcp : Tcp ν} {id : ConnectionId}
    (unread : ∀ connection, tcp.connections.get? id = some connection →
      connection.readClosed = true) : attend network now tcp id = tcp := by
  -- An unknown connection is not read either.
  cases known : tcp.connections.get? id with
  | none => simp [attend, known]
  | some connection => simp [attend, known, unread connection known]

/-- What is taken out of a connection is the parse of what was left and what is read. -/
theorem harvest_logged (network : Network ν) (id : ConnectionId) (connection : Connection)
    (now : Instant) (state : ν × List Reading) :
    ∃ taken invalid, taken ≠ [] ∧
      (harvest network.logged id connection now state).network.2 = state.2 ++ taken ∧
      Frame.Parse (connection.inbox ++ taken.flatMap Reading.bytes)
        (harvest network.logged id connection now state).packets
        (harvest network.logged id connection now state).connection.inbox invalid ∧
      (harvest network.logged id connection now state).closed =
        (taken.any Reading.isLast || invalid.isSome) := by
  obtain ⟨taken, some, logged, held, ended⟩ :=
    drain_logged network connection.socket connection.inbox false state
  -- Everything that was held on to is split at once.
  have parse := Frame.parse_split (connection.inbox ++ taken.flatMap Reading.bytes)
  refine ⟨taken, (Frame.split (connection.inbox ++ taken.flatMap Reading.bytes)).invalid, some,
    logged, ?_, ?_⟩
  · simp only [harvest, held]
    exact parse
  -- The end of the reading is told by the readings, or by the splitting.
  · simp only [harvest, held, ended]

/-- Attending a connection that is still read takes readings and parses what they yield behind
what was left. -/
theorem attended_attend (network : Network ν) (now : Instant) {tcp : Tcp (ν × List Reading)}
    {id : ConnectionId} {connection : Connection}
    (known : tcp.connections.get? id = some connection) (reading : connection.readClosed = false) :
    ∃ taken, taken ≠ [] ∧
      (attend network.logged now tcp id).network.2 = tcp.network.2 ++ taken ∧
      Attended id connection tcp taken (attend network.logged now tcp id) := by
  obtain ⟨taken, invalid, some, logged, parse, closed⟩ :=
    harvest_logged network id connection now tcp.network
  refine ⟨taken, some, ?_⟩
  simp only [attend, known, reading, Bool.false_eq_true, if_false]
  generalize harvest network.logged id connection now tcp.network = harvest
    at logged parse closed
  -- Either something ended the reading, or the connection goes on, unless it was silent too long.
  cases finished : harvest.closed with
  | true =>
    rw [finished, eq_comm, Bool.or_eq_true, or_comm] at closed
    -- Its end is queued, and nothing more is read of it.
    simp only [if_true]
    refine ⟨logged, .closed harvest.packets { harvest.connection with readClosed := true } invalid
      _ parse closed rfl ?_ rfl⟩
    simp [Connections.get?_insert]
  | false =>
    -- Nothing ended the reading, so no header was bad and no reading was the last.
    rw [finished, eq_comm, Bool.or_eq_false_iff, Option.isSome_eq_false_iff,
      Option.isNone_iff_eq_none] at closed
    obtain ⟨more, rfl⟩ := closed
    simp only [Bool.false_eq_true, if_false]
    split
    -- It was silent for too long, so its entry is gone.
    · refine ⟨by rw [log_close]; exact logged, .timedOut harvest.packets _ _ parse more ?_ ?_⟩
      · rw [events_close]
      · rw [get?_close, if_pos rfl]
    -- It goes on with what is left in its inbox.
    · refine ⟨logged, .going harvest.packets { harvest.connection with readClosed := false } _
        parse more rfl ?_ rfl⟩
      simp [Connections.get?_insert]

end Tcp

end CallGate
