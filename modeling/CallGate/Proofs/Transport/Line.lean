import CallGate.Proofs.Dispatcher.Conversation

/-! The line of one connection: all that it sees of a loopback it shares with others. -/

namespace CallGate

/-- One thing that is done to a loopback from outside. -/
inductive Act where
  | happens (event : Event)
  /-- From now on, every sending on the connection fails. -/
  | failing (connection : ConnectionId)
  deriving DecidableEq, Repr

/-- The connection something is done on. -/
def Act.connection : Act → ConnectionId
  | happens event => event.connection
  | failing connection => connection

/-- A loopback as one of its connections sees it. -/
structure Line where
  opened : Bool
  dropped : Bool
  failing : Bool
  /-- What is still to be polled of it. -/
  coming : List Event
  deriving DecidableEq, Repr

namespace Line

/-- What is done on the connection itself. -/
def act (line : Line) : Act → Line
  | .happens (.connected id) =>
    { line with opened := true, coming := line.coming ++ [.connected id] }
  | .happens (.received id packet) => { line with coming := line.coming ++ [.received id packet] }
  | .happens event => { line with opened := false, coming := line.coming ++ [event] }
  | .failing _ => { line with failing := true }

/-- Packets sent on the connection are kept. -/
def takes (line : Line) : Bool := line.opened && !line.failing

/-- The server closes the connection. -/
def close (line : Line) (id : ConnectionId) : Line where
  opened := false
  dropped := line.dropped || line.opened
  failing := line.failing
  coming := line.coming.filter (Loopback.survives id)

/-- The next event of the connection is polled. -/
def poll (line : Line) : Line := { line with coming := line.coming.tail }

end Line

namespace Loopback

/-- Something is done from outside. -/
def act (loopback : Loopback) : Act → Loopback
  | .happens event => loopback.enact event
  | .failing id => loopback.failSends id

/-- What one connection sees. -/
def line (loopback : Loopback) (id : ConnectionId) : Line where
  opened := loopback.isOpen id
  dropped := loopback.wasDropped id
  failing := loopback.failing.contains id
  coming := loopback.inbound.filter fun event => event.connection = id

/-- The packets that were sent on a connection and not taken yet. -/
def sentTo (loopback : Loopback) (id : ConnectionId) : List Bytes :=
  (loopback.sent.get? id).getD []

/-- A line sees the events of its own connection being queued. -/
theorem line_queue (loopback : Loopback) (event : Event) (id : ConnectionId) :
    (loopback.queue event).line id =
      if event.connection = id then
        { loopback.line id with coming := (loopback.line id).coming ++ [event] }
      else loopback.line id := by
  -- The event is at the end of the queue, and either is one of the line's or is not.
  by_cases own : event.connection = id <;> simp [queue, line, isOpen, wasDropped, own]

/-- A line sees that it is closed, and not that others are. -/
theorem line_close (loopback : Loopback) (other id : ConnectionId) :
    (loopback.close other).line id =
      if other = id then { loopback.line id with opened := false } else loopback.line id := by
  -- Closing takes one connection out of those that are open.
  by_cases own : other = id
  · simp [close, line, isOpen, wasDropped, own]
  · simp [close, line, isOpen, wasDropped, own, Ne.symm own]

/-- A line sees that it is opened and greeted, and not that others are. -/
theorem line_connect (loopback : Loopback) (other id : ConnectionId) :
    (loopback.connect other).line id =
      if other = id then
        { loopback.line id with
          opened := true
          coming := (loopback.line id).coming ++ [.connected id] }
      else loopback.line id := by
  -- Another line may be opened anew or be open already, which makes no difference to this one.
  by_cases own : other = id
  · subst own
    have opened := loopback.isOpen_connect other
    simp only [line, opened]
    simp [connect, queue, wasDropped, Event.connection]
  · by_cases opened : other ∈ loopback.opened <;>
      simp [connect, queue, line, isOpen, wasDropped, Event.connection, own, Ne.symm own, opened]

/-- A connection sees what is done on it, and nothing else that is done. -/
theorem line_act (loopback : Loopback) (act : Act) (id : ConnectionId) :
    (loopback.act act).line id =
      if act.connection = id then (loopback.line id).act act else loopback.line id := by
  cases act with
  | failing other =>
    -- Failing is noted for one connection, and the line is of that one or another.
    by_cases own : other = id
    · simp [act, failSends, line, Line.act, isOpen, wasDropped, Act.connection, own]
    · simp [act, failSends, line, isOpen, wasDropped, Act.connection, own, Ne.symm own]
  | happens event =>
    -- Connecting opens a line, parting closes it, and an event is queued in any case.
    by_cases own : event.connection = id
    · subst own
      cases event <;>
        simp [act, enact, deliver, hangUp, timeOut, line_connect, line_queue, line_close, Line.act,
          Act.connection, Event.connection]
    · cases event <;>
        simp_all [act, enact, deliver, hangUp, timeOut, line_connect, line_queue, line_close,
          Act.connection, Event.connection]

/-- Of everything that is done, a connection sees what is done on it. -/
theorem line_acts (loopback : Loopback) (acts : List Act) (id : ConnectionId) :
    (acts.foldl act loopback).line id =
      (acts.filter fun act => act.connection = id).foldl Line.act (loopback.line id) := by
  -- The acts are done one after the other, and each is seen or not.
  induction acts generalizing loopback with
  | nil => rfl
  | cons act acts ih =>
    rw [List.foldl_cons, ih, line_act]
    by_cases own : act.connection = id <;> simp [own]

/-- Nothing that is done from outside sends or takes a packet. -/
theorem sentTo_acts (loopback : Loopback) (acts : List Act) (id : ConnectionId) :
    (acts.foldl act loopback).sentTo id = loopback.sentTo id := by
  -- The acts are done one after the other, and none of them is a send.
  induction acts generalizing loopback with
  | nil => rfl
  | cons first acts ih =>
    rw [List.foldl_cons, ih]
    cases first with
    | failing other => rfl
    | happens event => cases event <;> rfl

/-- Where only one connection has anything queued, this stays so while things are done on it. -/
theorem solo_acts {loopback : Loopback} {acts : List Act} {id : ConnectionId}
    (solo : ∀ event ∈ loopback.inbound, event.connection = id)
    (own : ∀ act ∈ acts, act.connection = id) :
    ∀ event ∈ (acts.foldl act loopback).inbound, event.connection = id := by
  -- The property is kept by each act on the connection.
  induction acts generalizing loopback with
  | nil => exact solo
  | cons first acts ih =>
    refine ih ?_ fun act member => own act (List.mem_cons_of_mem _ member)
    have mine := own first (List.mem_cons_self ..)
    -- An act queues one event of its connection, or none.
    have queued : (loopback.act first).inbound = loopback.inbound ∨
        ∃ event, event.connection = first.connection ∧
          (loopback.act first).inbound = loopback.inbound ++ [event] := by
      cases first with
      | failing other => exact .inl rfl
      | happens event => exact .inr ⟨event, rfl, by cases event <;> rfl⟩
    intro event member
    rcases queued with same | ⟨added, whose, more⟩
    · exact solo event (same ▸ member)
    · rw [more, List.mem_append, List.mem_singleton] at member
      rcases member with earlier | rfl
      · exact solo event earlier
      · exact whose.trans mine

/-- Sending queues nothing and drops nothing. -/
@[simp] theorem inbound_send (loopback : Loopback) (id : ConnectionId) (packet : Bytes) :
    (loopback.send id packet).2.inbound = loopback.inbound := by
  -- A send fails on a closed line or on one that was made to fail, and else keeps the packet.
  unfold send
  split
  · rfl
  · split <;> rfl

/-- Sending changes what was sent, and nothing that any connection sees. -/
@[simp] theorem line_send (loopback : Loopback) (other id : ConnectionId) (packet : Bytes) :
    (loopback.send other packet).2.line id = loopback.line id := by
  -- What was sent is no part of what a line sees.
  unfold send
  split
  · rfl
  · split <;> rfl

/-- A connection sees that the server closes it, and does not see that it closes others. -/
theorem line_disconnect (loopback : Loopback) (other id : ConnectionId) :
    (loopback.disconnect other).line id =
      if other = id then (loopback.line id).close id else loopback.line id := by
  -- The line is the one that is closed, or another one.
  by_cases own : other = id
  · subst own
    by_cases opened : other ∈ loopback.opened <;>
      simp [disconnect, line, Line.close, isOpen, wasDropped, opened, List.filter_filter,
        Bool.and_comm]
  · -- Events that do not survive are of the closed connection, so no other misses any.
    have kept : (loopback.inbound.filter (survives other)).filter
        (fun event => event.connection = id) =
        loopback.inbound.filter fun event => event.connection = id := by
      rw [List.filter_filter]
      refine List.filter_congr fun event _ => ?_
      by_cases mine : event.connection = id
      · cases event <;> simp_all [survives, Event.connection, Ne.symm own]
      · simp [mine]
    by_cases opened : other ∈ loopback.opened <;>
      simp [disconnect, line, isOpen, wasDropped, own, Ne.symm own, opened, kept]

/-- Whether a packet is taken depends on the line it is sent on. -/
theorem isOk_send (loopback : Loopback) (id : ConnectionId) (packet : Bytes) :
    (loopback.send id packet).1.isOk = (loopback.line id).takes := by
  -- The two reasons to refuse are those of the line.
  unfold send
  split
  · simp_all [line, Line.takes, Except.isOk, Except.toBool]
  · split <;> simp_all [line, Line.takes, Except.isOk, Except.toBool]

/-- A packet that is taken is kept for the connection it is sent on. -/
theorem sentTo_send (loopback : Loopback) (other id : ConnectionId) (packet : Bytes) :
    (loopback.send other packet).2.sentTo id =
      loopback.sentTo id ++
        if other = id ∧ (loopback.line id).takes then [packet] else [] := by
  -- What is kept under one connection is not found under another.
  by_cases own : other = id
  · subst own
    unfold send
    split
    · simp_all [line, Line.takes]
    · split <;> simp_all [line, Line.takes, sentTo, Connections.get?_insert]
  · unfold send
    split
    · simp [own]
    · split <;> simp [own, sentTo, Connections.get?_insert]

end Loopback

end CallGate
