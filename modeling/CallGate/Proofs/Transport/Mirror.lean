import CallGate.Transport.Tcp

/-! A machine on which something is kept beside its state does what it does without. -/

namespace CallGate

variable {ν κ : Type}

/-- The wider machine answers what the other one answers, whatever it keeps beside the state. -/
structure Network.Mirrors (wider : Network (ν × κ)) (network : Network ν) : Prop where
  now (state : ν × κ) : network.now state.1 = Prod.map id Prod.fst (wider.now state)
  arrivals (state : ν × κ) :
    network.arrivals state.1 = Prod.map id Prod.fst (wider.arrivals state)
  read (socket : Socket) (state : ν × κ) :
    network.read socket state.1 = Prod.map id Prod.fst (wider.read socket state)
  write (socket : Socket) (bytes : Bytes) (state : ν × κ) :
    network.write socket bytes state.1 = Prod.map id Prod.fst (wider.write socket bytes state)
  shutdown (socket : Socket) (state : ν × κ) :
    network.shutdown socket state.1 = (wider.shutdown socket state).1
  wait (sockets : List Socket) (listener : Bool) (milliseconds : Nat) (state : ν × κ) :
    network.wait sockets listener milliseconds state.1 =
      (wider.wait sockets listener milliseconds state).1

/-- The same machine, with something beside its state that it never touches. -/
def Network.beside (network : Network ν) (κ : Type) : Network (ν × κ) where
  lookup host state := (network.lookup host state.1).map id (·, state.2)
  listen address state := (network.listen address state.1).map id (·, state.2)
  unblock state := (network.unblock state.1).map id (·, state.2)
  now state := (network.now state.1).map id (·, state.2)
  arrivals state := (network.arrivals state.1).map id (·, state.2)
  read socket state := (network.read socket state.1).map id (·, state.2)
  write socket bytes state := (network.write socket bytes state.1).map id (·, state.2)
  shutdown socket state := (network.shutdown socket state.1, state.2)
  wait sockets listener milliseconds state :=
    (network.wait sockets listener milliseconds state.1, state.2)

namespace Tcp

/-- A transport without what its machine keeps beside its state. -/
def bare (tcp : Tcp (ν × κ)) : Tcp ν := { tcp with network := tcp.network.1 }

/-- How long silence may last is not kept beside the machine. -/
@[simp] theorem idleTimeout_bare (tcp : Tcp (ν × κ)) : tcp.bare.idleTimeout = tcp.idleTimeout := rfl

/-- A transport over a machine that keeps this beside its state at first. -/
def beside (tcp : Tcp ν) (kept : κ) : Tcp (ν × κ) := { tcp with network := (tcp.network, kept) }

section Mirroring

variable {wider : Network (ν × κ)} {network : Network ν}

/-- Closing does the same with and without what is kept. So does everything below. -/
theorem bare_close (mirrors : wider.Mirrors network) (tcp : Tcp (ν × κ)) (id : ConnectionId) :
    (close wider tcp id).bare = close network tcp.bare id := by
  -- Without an entry nothing is closed on either side.
  cases known : tcp.connections.get? id with
  | none => simp [close, bare, known]
  | some connection => simp [close, bare, known, mirrors.shutdown]

/-- Emptying a socket does the same with and without what is kept. -/
theorem drain_of_mirrors (mirrors : wider.Mirrors network) (socket : Socket) (inbox : Bytes)
    (active : Bool) (state : ν × κ) :
    drain network socket inbox active state.1 =
      { drain wider socket inbox active state with
        network := (drain wider socket inbox active state).network.1 } := by
  -- Both machines yield the same reading each time, so both stop at the same one.
  fun_induction drain wider socket inbox active state with
  | case1 inbox active state next came =>
    rw [drain, mirrors.read, came]
    rfl
  | case2 inbox active state next came =>
    rw [drain, mirrors.read, came]
    rfl
  | case3 inbox active state cause next came =>
    rw [drain, mirrors.read, came]
    rfl
  | case4 inbox active state bytes nonempty fits next came full =>
    rw [drain, mirrors.read, came]
    simp only [Prod.map_apply, id_eq, if_pos full]
  | case5 inbox active state bytes nonempty fits next came room ih =>
    rw [drain, mirrors.read, came]
    simp only [Prod.map_apply, id_eq, if_neg room, ih]

/-- Reading a connection to its end does the same with and without what is kept. -/
theorem harvest_of_mirrors (mirrors : wider.Mirrors network) (id : ConnectionId)
    (connection : Connection) (now : Instant) (state : ν × κ) :
    harvest network id connection now state.1 =
      { harvest wider id connection now state with
        network := (harvest wider id connection now state).network.1 } := by
  -- All but the emptying of the socket is computed from what it yields.
  rw [harvest, drain_of_mirrors mirrors]
  rfl

/-- Reading a connection in a pump does the same with and without what is kept. -/
theorem bare_attend (mirrors : wider.Mirrors network) (now : Instant) (tcp : Tcp (ν × κ))
    (id : ConnectionId) : (attend wider now tcp id).bare = attend network now tcp.bare id := by
  cases known : tcp.connections.get? id with
  | none => simp [attend, bare, known]
  | some connection =>
    have entered : tcp.bare.connections.get? id = some connection := known
    have read : harvest network id connection now tcp.bare.network = _ :=
      harvest_of_mirrors mirrors id connection now tcp.network
    simp only [attend, known, entered, read, idleTimeout_bare]
    generalize harvest wider id connection now tcp.network = harvest
    -- The same bytes came, so the same becomes of the connection.
    split
    · rfl
    · split
      · rfl
      · split
        · exact congrArg (fun closed => { closed with
            events := closed.events ++ [Event.timedOut id] }) (bare_close mirrors _ id)
        · rfl

/-- Taking in a peer does the same with and without what is kept. -/
theorem bare_takeIn (mirrors : wider.Mirrors network) (now : Instant) (tcp : Tcp (ν × κ))
    (arrival : Arrival) :
    (takeIn wider now tcp arrival).bare = takeIn network now tcp.bare arrival := by
  -- Whether a peer is welcome depends on the table and the socket only.
  have same : tcp.bare.refusal? arrival = tcp.refusal? arrival := rfl
  cases refused : tcp.refusal? arrival with
  | some notice =>
    simp only [takeIn, same, refused]
    simp [bare, mirrors.shutdown]
  | none =>
    simp only [takeIn, same, refused]
    rfl

/-- Taking in everyone who waits does the same with and without what is kept. -/
theorem bare_takeIns (mirrors : wider.Mirrors network) (now : Instant)
    (peers : List Arrival) (tcp : Tcp (ν × κ)) :
    (peers.foldl (takeIn wider now) tcp).bare = peers.foldl (takeIn network now) tcp.bare :=
  (List.foldl_hom bare fun tcp peer => (bare_takeIn mirrors now tcp peer).symm).symm

/-- Accepting does the same with and without what is kept. -/
theorem bare_accept (mirrors : wider.Mirrors network) (now : Instant) (tcp : Tcp (ν × κ)) :
    (tcp.accept wider now).bare = tcp.bare.accept network now := by
  have same : tcp.bare.accepting now = tcp.accepting now := rfl
  have came : network.arrivals tcp.bare.network = _ := mirrors.arrivals tcp.network
  by_cases accepting : tcp.accepting now
  · rcases arrived : wider.arrivals tcp.network with ⟨arrivals, next⟩
    rw [arrived] at came
    simp only [accept, same, accepting, if_true, came, arrived, Prod.map_apply, id_eq]
    have taken : _ = arrivals.peers.foldl (takeIn network now)
        { tcp.bare with network := next.1, acceptPausedUntil := none } :=
      bare_takeIns mirrors now arrivals.peers
        { tcp with network := next, acceptPausedUntil := none }
    rw [← taken]
    -- A failing listener pauses both alike. How long is left open, or it would be added up here.
    generalize now.after acceptBackoff = reopening
    cases arrivals.failure <;> rfl
  -- While accepting pauses, nothing is done on either side.
  · simp [accept, same, accepting]

/-- Reading the clock does the same with and without what is kept. -/
theorem bare_clock (mirrors : wider.Mirrors network) (tcp : Tcp (ν × κ)) :
    tcp.bare.clock network = Prod.map id bare (tcp.clock wider) := by
  -- The machine tells the same time on both sides.
  simp [clock, bare, mirrors.now]

/-- A pump does the same with and without what is kept. -/
theorem bare_pump (mirrors : wider.Mirrors network) (tcp : Tcp (ν × κ)) :
    (tcp.pump wider).bare = tcp.bare.pump network := by
  -- Accepting comes first, and the connections are read one after the other.
  simp only [pump, bare_clock mirrors, Prod.map_fst, Prod.map_snd, id_eq, ← bare_accept mirrors]
  exact (List.foldl_hom bare fun tcp id => (bare_attend mirrors _ tcp id).symm).symm

/-- Handing out an event does the same with and without what is kept. -/
theorem bare_nextEvent (mirrors : wider.Mirrors network) (tcp : Tcp (ν × κ)) :
    tcp.bare.nextEvent network = Prod.map id bare (tcp.nextEvent wider) := by
  -- Both have the same queue, so the event is the same, and only a close touches the machine.
  have same : tcp.bare.events = tcp.events := rfl
  cases queued : tcp.events with
  | nil => simp [nextEvent, same, queued]
  | cons event rest =>
    cases event with
    | disconnected id =>
      simp only [nextEvent, same, queued, Prod.map_apply, bare_close mirrors]
      rfl
    | _ =>
      simp only [nextEvent, same, queued, Prod.map_apply]
      rfl

/-- Waiting does the same with and without what is kept. -/
theorem bare_rest (mirrors : wider.Mirrors network) (tcp : Tcp (ν × κ)) (span : Duration) :
    (tcp.rest wider span).bare = tcp.bare.rest network span := by
  -- Both wait for the same sockets and for the same time.
  simp [rest, bare, mirrors.wait]

/-- A poll up to a deadline does the same with and without what is kept. -/
theorem bare_pollUntil (mirrors : wider.Mirrors network) (deadline : Instant) (wakeups : Nat)
    (tcp : Tcp (ν × κ)) :
    pollUntil network deadline wakeups tcp.bare =
      Prod.map id bare (pollUntil wider deadline wakeups tcp) := by
  -- The induction is on the wakeups. In each the queue, the pump and the clock are asked in turn.
  induction wakeups generalizing tcp with
  | zero => rfl
  | succ wakeups ih =>
    simp only [pollUntil, bare_nextEvent mirrors]
    rcases tcp.nextEvent wider with ⟨_ | event, tcp⟩
    · have paused : (tcp.pump wider).bare.outlasts = (tcp.pump wider).outlasts := rfl
      simp only [Prod.map_apply, id_eq, ← bare_pump mirrors, bare_nextEvent mirrors, paused]
      split
      · rfl
      · rcases (tcp.pump wider).nextEvent wider with ⟨_ | event, tcp⟩
        · simp only [Prod.map_apply, id_eq, bare_clock mirrors]
          rcases tcp.clock wider with ⟨now, tcp⟩
          have same : tcp.bare.waitBudget now deadline = tcp.waitBudget now deadline := rfl
          simp only [Prod.map_apply, id_eq, same]
          split
          · rfl
          -- The budget is used up, or it is waited out and polled again.
          · split
            · rfl
            · rw [← bare_rest mirrors, ih]
        · rfl
    · rfl

/-- A poll does the same with and without what is kept. -/
theorem bare_poll (mirrors : wider.Mirrors network) (wait : Duration) (tcp : Tcp (ν × κ)) :
    poll network wait tcp.bare = Prod.map id bare (poll wider wait tcp) := by
  -- The clock is read on both sides, and only a deadline out of range ends the poll there.
  simp only [poll, bare_clock mirrors]
  rcases tcp.clock wider with ⟨now, tcp⟩
  simp only [Prod.map_apply, id_eq]
  split
  · rfl
  · exact bare_pollUntil mirrors _ _ tcp

/-- Sending does the same with and without what is kept. -/
theorem bare_send (mirrors : wider.Mirrors network) (target : ConnectionId) (packet : Bytes)
    (tcp : Tcp (ν × κ)) :
    send network target packet tcp.bare = Prod.map id bare (send wider target packet tcp) := by
  have same : tcp.bare.connections = tcp.connections := rfl
  -- The frame is made and the connection found alike, so the same is written on both sides.
  simp only [send, same]
  split
  · rfl
  · split
    · rfl
    · rename_i frame _ _ connection _
      have written : network.write connection.socket frame tcp.bare.network = _ :=
        mirrors.write connection.socket frame tcp.network
      rw [written]
      rcases wider.write connection.socket frame tcp.network with ⟨_ | _, next⟩ <;> rfl

/-- Closing a connection for the caller does the same with and without what is kept. -/
theorem bare_disconnect (mirrors : wider.Mirrors network) (id : ConnectionId)
    (tcp : Tcp (ν × κ)) :
    (disconnect wider id tcp).bare = disconnect network id tcp.bare := by
  -- The tables are the same, and so is what is left of the queue.
  have same : tcp.bare.connections = tcp.connections := rfl
  simp only [disconnect, same]
  split
  · exact congrArg (fun closed => { closed with
      events := closed.events.filter (·.connection ≠ id) }) (bare_close mirrors tcp id)
  · rfl

end Mirroring

end Tcp

end CallGate
