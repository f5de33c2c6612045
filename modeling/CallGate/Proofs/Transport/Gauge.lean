import CallGate.Transport.Tcp

/-! What connections leave as it is, on the machine and in the transport, whatever comes of them. -/

namespace CallGate

variable {ν α : Type}

/-- Reading, writing and closing a socket leave what is measured of a machine as it is. -/
structure Network.Leaves (network : Network ν) (measure : ν → α) : Prop where
  read (socket : Socket) (state : ν) : measure (network.read socket state).2 = measure state
  write (socket : Socket) (bytes : Bytes) (state : ν) :
    measure (network.write socket bytes state).2 = measure state
  shutdown (socket : Socket) (state : ν) : measure (network.shutdown socket state) = measure state

namespace Tcp

variable {network : Network ν} {measure : ν → α}

/-- Closing a connection leaves the measure alone, as all that a socket does. -/
theorem measure_close (leaves : network.Leaves measure) (tcp : Tcp ν) (id : ConnectionId) :
    measure (close network tcp id).network = measure tcp.network := by
  -- Without an entry nothing is closed, and otherwise the socket is shut down.
  unfold close
  split
  · rfl
  · exact leaves.shutdown _ _

/-- Emptying a socket leaves the measure alone. -/
theorem measure_drain (leaves : network.Leaves measure) (socket : Socket) (inbox : Bytes)
    (active : Bool) (state : ν) :
    measure (drain network socket inbox active state).network = measure state := by
  have same {reading : Reading} {state next : ν}
      (came : network.read socket state = (reading, next)) : measure next = measure state := by
    rw [← leaves.read socket state, came]
  -- Every way in which a reading can end it leaves the machine where the reading left it.
  fun_induction drain network socket inbox active state with
  | case1 inbox active state next came => exact same came
  | case2 inbox active state next came => exact same came
  | case3 inbox active state cause next came => exact same came
  | case4 inbox active state bytes nonempty fits next came full => exact same came
  | case5 inbox active state bytes nonempty fits next came room ih => rw [ih, same came]

/-- Reading a connection leaves the measure alone. -/
theorem measure_attend (leaves : network.Leaves measure) (now : Instant) (tcp : Tcp ν)
    (id : ConnectionId) : measure (attend network now tcp id).network = measure tcp.network := by
  have harvested (connection : Connection) :
      measure (harvest network id connection now tcp.network).network = measure tcp.network :=
    measure_drain leaves connection.socket connection.inbox false tcp.network
  -- A connection that is read is only emptied, and one that was silent is closed after that.
  unfold attend
  split
  · rfl
  · split
    · rfl
    · simp only
      split
      · exact harvested _
      · split
        · rw [measure_close leaves]
          exact harvested _
        · exact harvested _

/-- Reading one connection after the other leaves the measure alone. -/
theorem measure_attends (leaves : network.Leaves measure) (now : Instant)
    (ids : List ConnectionId) (tcp : Tcp ν) :
    measure (ids.foldl (attend network now) tcp).network = measure tcp.network := by
  -- One connection is read after the other.
  induction ids generalizing tcp with
  | nil => rfl
  | cons id ids ih => rw [List.foldl_cons, ih, measure_attend leaves]

/-- Taking in everyone who waits leaves the measure alone. -/
theorem measure_takeIns (leaves : network.Leaves measure) (now : Instant)
    (peers : List Arrival) (tcp : Tcp ν) :
    measure (peers.foldl (takeIn network now) tcp).network = measure tcp.network := by
  -- One peer is taken in after the other.
  induction peers generalizing tcp with
  | nil => rfl
  | cons peer peers ih =>
    rw [List.foldl_cons, ih]
    -- Whoever is turned away is shut out, and the others are entered without the machine.
    unfold takeIn
    split
    · exact leaves.shutdown _ _
    · rfl

/-- Accepting moves what the listener moves, if it is asked. -/
theorem measure_accept (leaves : network.Leaves measure) (now : Instant) (tcp : Tcp ν) :
    measure (tcp.accept network now).network =
      if tcp.accepting now then measure (network.arrivals tcp.network).2
      else measure tcp.network := by
  by_cases accepting : tcp.accepting now
  · -- Whoever is turned away or taken in is so after the listener has answered.
    have taken := measure_takeIns leaves now (network.arrivals tcp.network).1.peers
      { tcp with network := (network.arrivals tcp.network).2, acceptPausedUntil := none }
    rw [if_pos accepting]
    refine Eq.trans ?_ taken
    simp only [accept, accepting, if_true]
    split <;> rfl
  -- While accepting pauses, the listener is not asked.
  · simp [accept, accepting]

/-- Handing out an event leaves the measure alone. -/
theorem measure_nextEvent (leaves : network.Leaves measure) (tcp : Tcp ν) :
    measure (tcp.nextEvent network).2.network = measure tcp.network := by
  -- Only the report of a close asks anything of the machine.
  unfold nextEvent
  split
  · rfl
  · exact measure_close leaves ..
  · rfl

/-- Closing a connection for the caller leaves the measure alone. -/
theorem measure_disconnect (leaves : network.Leaves measure) (id : ConnectionId) (tcp : Tcp ν) :
    measure (disconnect network id tcp).network = measure tcp.network := by
  -- Without an entry the machine is not asked at all.
  unfold disconnect
  split
  · exact measure_close leaves ..
  · rfl

/-- Sending leaves the measure alone. -/
theorem measure_send (leaves : network.Leaves measure) (id : ConnectionId) (packet : Bytes)
    (tcp : Tcp ν) : measure (send network id packet tcp).2.network = measure tcp.network := by
  -- A packet that cannot be framed, or has no connection, is not written.
  unfold send
  split
  · rfl
  · split
    · rfl
    · -- Written or not, the machine is left as the writing left it.
      rename_i frame _ _ connection _
      rw [← leaves.write connection.socket frame tcp.network]
      split <;>
        (rename_i written
         rw [written])

/-- What is seen of a transport has nothing to do with its machine, its entries, its queue and its
log. -/
def Fixed (view : Tcp ν → α) : Prop :=
  ∀ (tcp : Tcp ν) (network : ν) (connections : Connections Connection) (events : List Event)
    (log : List Notice), view { tcp with network, connections, events, log } = view tcp

section Fixing

variable {view : Tcp ν → α} (fixed : Fixed view) (network : Network ν)

include fixed

/-- A view without the entries, the queue and the machine does not see a connection closed. -/
theorem fixed_close (tcp : Tcp ν) (id : ConnectionId) :
    view (close network tcp id) = view tcp := by
  -- Closing takes the entry away and shuts the socket down.
  unfold close
  split
  · rfl
  · exact fixed tcp _ _ _ _

/-- It does not see a connection read. -/
theorem fixed_attend (now : Instant) (tcp : Tcp ν) (id : ConnectionId) :
    view (attend network now tcp id) = view tcp := by
  -- The cases are those of the reading: no entry, read to its end, ended now, silent, and going on.
  unfold attend
  split
  · rfl
  · split
    · rfl
    · simp only
      split
      · exact fixed tcp _ _ _ _
      · split
        · -- The entry is put back first, and the close takes it away.
          exact (fixed _ _ _ _ _).trans ((fixed_close fixed network _ id).trans (fixed tcp _ _ _ _))
        · exact fixed tcp _ _ _ _

/-- It does not see an event handed out. -/
theorem fixed_nextEvent (tcp : Tcp ν) : view (tcp.nextEvent network).2 = view tcp := by
  -- The report of a close takes the entry along, and any other event comes off the queue only.
  unfold nextEvent
  split
  · rfl
  · exact (fixed_close fixed network _ _).trans (fixed tcp _ _ _ _)
  · exact fixed tcp _ _ _ _

/-- It does not see a connection closed for the caller. -/
theorem fixed_disconnect (id : ConnectionId) (tcp : Tcp ν) :
    view (disconnect network id tcp) = view tcp := by
  -- What is queued of a known connection is dropped with it.
  unfold disconnect
  split
  · exact (fixed _ _ _ _ _).trans (fixed_close fixed network tcp id)
  · rfl

/-- It does not see a packet sent. -/
theorem fixed_send (id : ConnectionId) (packet : Bytes) (tcp : Tcp ν) :
    view (send network id packet tcp).2 = view tcp := by
  -- Only the machine is changed by a write.
  unfold send
  split
  · rfl
  · split
    · rfl
    · split <;> exact fixed tcp _ _ _ _

end Fixing

end Tcp

end CallGate
