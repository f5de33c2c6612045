import CallGate.Proofs.Transport.Turns

/-! The course of one connection: its number is given out, packets come, and it ends. -/

namespace CallGate

/-- Packets that frames can carry. -/
def Frame.Fit (packets : List Bytes) : Prop :=
  ∀ packet ∈ packets, 1 ≤ packet.length ∧ packet.length ≤ maxLength

/-- A parse yields no other packets than frames can carry. -/
theorem Frame.Parse.fit {stream rest : Bytes} {packets : List Bytes} {invalid : Option Nat}
    (parse : Parse stream packets rest invalid) : Fit packets := by
  -- The induction follows the frames. The other three ways to end a parse yield no packet.
  induction parse with
  | frame header packet announced tail ih =>
    -- The header announced the packet in front, and the others come from the rest.
    obtain ⟨_, _, some, small⟩ := announced
    intro other member
    rcases List.mem_cons.mp member with rfl | later
    · exact ⟨some, small⟩
    · exact ih other later
  | _ => simp [Fit]

/-- The connection whose number an event gives out. -/
def Event.greeted? : Event → Option ConnectionId
  | .connected id => some id
  | _ => none

/-- A beginning of what can be handed out of a connection altogether: its number, then packets,
then one ending. -/
def Begins (id : ConnectionId) (events : List Event) : Prop :=
  ∃ packets ending, Frame.Fit packets ∧ (ending = .disconnected id ∨ ending = .timedOut id) ∧
    events <+: .connected id :: packets.map (.received id) ++ [ending]

/-- How far a connection has come: its entry, what was handed out of it, and what is queued. -/
inductive Course (id : ConnectionId) : Option Connection → (handed queued : List Event) → Prop
  /-- Nothing is known of the connection any more, or nothing yet. -/
  | quiet {handed : List Event} (told : Begins id handed) : Course id none handed []
  | going {handed queued : List Event} (connection : Connection) (packets : List Bytes)
    (fit : Frame.Fit packets) (reading : connection.readClosed = false)
    (told : handed ++ queued = .connected id :: packets.map (.received id)) :
    Course id (some connection) handed queued
  /-- The end of the connection is still to be handed out. -/
  | closing {handed earlier : List Event} (connection : Connection) (packets : List Bytes)
    (fit : Frame.Fit packets) (unread : connection.readClosed = true)
    (told : handed ++ earlier = .connected id :: packets.map (.received id)) :
    Course id (some connection) handed (earlier ++ [.disconnected id])
  /-- So is the end of this one, which was forgotten at once. -/
  | silent {handed earlier : List Event} (packets : List Bytes) (fit : Frame.Fit packets)
    (told : handed ++ earlier = .connected id :: packets.map (.received id)) :
    Course id none handed (earlier ++ [.timedOut id])

namespace Course

variable {id : ConnectionId} {entry : Option Connection} {handed queued : List Event}

/-- A number that was not given out yet. -/
theorem unheard (id : ConnectionId) : Course id none [] [] :=
  -- Nothing was handed out, which is the beginning of anything.
  .quiet ⟨[], .disconnected id, by simp [Frame.Fit], .inl rfl, List.nil_prefix⟩

/-- What was handed out of a connection begins like everything that can be. -/
theorem begins (course : Course id entry handed queued) : Begins id handed := by
  -- Until the end is handed out, what was handed out is part of what comes before the end.
  have front {earlier : List Event} {packets : List Bytes} (fit : Frame.Fit packets)
      (told : handed ++ earlier = .connected id :: packets.map (.received id)) :
      Begins id handed :=
    ⟨packets, .disconnected id, fit, .inl rfl, earlier ++ [.disconnected id],
      by rw [← List.append_assoc, told]⟩
  cases course with
  | quiet told => exact told
  | going connection packets fit reading told => exact front fit told
  | closing connection packets fit unread told => exact front fit told
  | silent packets fit told => exact front fit told

/-- The caller closes the connection, and its events are forgotten with it. -/
theorem forgotten (course : Course id entry handed queued) : Course id none handed [] :=
  -- Nothing is queued any more, so all that is left of it is what was handed out.
  .quiet course.begins

/-- No end is among the events that come before it. -/
theorem disconnected_notMem {events : List Event} {packets : List Bytes}
    (part : ∀ event ∈ events, event ∈ Event.connected id :: packets.map (.received id)) :
    .disconnected id ∉ events := by
  -- Those events are the greeting and packets.
  intro member
  have wrong := part _ member
  simp at wrong

/-- The first event that is queued is handed out. The report of a close takes the entry along. -/
theorem next {event : Event} (course : Course id entry handed (event :: queued)) :
    Course id (if event = .disconnected id then none else entry) (handed ++ [event]) queued := by
  generalize whole : event :: queued = all at course
  -- An event in front of the end is no end, and the entry stays while it is handed out.
  have stays {earlier : List Event} {packets : List Bytes}
      (told : handed ++ event :: earlier = .connected id :: packets.map (.received id)) :
      event ≠ .disconnected id := by
    rintro rfl
    exact disconnected_notMem (fun event member => told ▸ List.mem_append_right _ member)
      (List.mem_cons_self ..)
  cases course with
  | quiet told => cases whole
  | going connection packets fit reading told =>
    subst whole
    rw [if_neg (stays told)]
    exact .going connection packets fit reading (by simpa using told)
  | @closing _ earlier connection packets fit unread told =>
    cases earlier with
    | nil =>
      -- The end itself is handed out.
      simp only [List.nil_append, List.cons.injEq] at whole
      obtain ⟨rfl, rfl⟩ := whole
      rw [List.append_nil] at told
      rw [if_pos rfl, told]
      exact .quiet ⟨packets, _, fit, .inl rfl, List.prefix_rfl⟩
    | cons first earlier =>
      simp only [List.cons_append, List.cons.injEq] at whole
      obtain ⟨rfl, rfl⟩ := whole
      rw [if_neg (stays told)]
      exact .closing connection packets fit unread (by simpa using told)
  | @silent _ earlier packets fit told =>
    cases earlier with
    | nil =>
      -- The report of the silence itself is handed out, and there is no entry to take along.
      simp only [List.nil_append, List.cons.injEq] at whole
      obtain ⟨rfl, rfl⟩ := whole
      rw [List.append_nil] at told
      rw [if_neg (by simp), told]
      exact .quiet ⟨packets, _, fit, .inr rfl, List.prefix_rfl⟩
    | cons first earlier =>
      simp only [List.cons_append, List.cons.injEq] at whole
      obtain ⟨rfl, rfl⟩ := whole
      rw [if_neg (stays told)]
      exact .silent packets fit (by simpa using told)

/-- Nothing is queued behind the report of a close. -/
theorem last_of_disconnected (course : Course id entry handed (.disconnected id :: queued)) :
    queued = [] := by
  generalize whole : .disconnected id :: queued = all at course
  -- The report is not among what comes before an end, so it stands in the place of the end.
  have before {events : List Event} {packets : List Bytes}
      (told : handed ++ events = .connected id :: packets.map (.received id)) :
      .disconnected id ∉ events :=
    disconnected_notMem fun event member => told ▸ List.mem_append_right _ member
  cases course with
  -- The cases are what the queue can hold, and only one of them ends with a report of a close.
  | quiet told => cases whole
  | going connection packets fit reading told =>
    exact absurd (whole ▸ List.mem_cons_self ..) (before told)
  | @closing _ earlier connection packets fit unread told =>
    cases earlier with
    | nil => exact (List.cons.inj whole).2
    | cons first earlier =>
      exact absurd ((List.cons.inj whole).1 ▸ List.mem_cons_self ..) (before told)
  | @silent _ earlier packets fit told =>
    cases earlier with
    | nil => cases (List.cons.inj whole).1
    | cons first earlier =>
      exact absurd ((List.cons.inj whole).1 ▸ List.mem_cons_self ..) (before told)

/-- Packets are queued for a connection that is still read. -/
theorem received {connection : Connection} {more : List Bytes}
    (course : Course id (some connection) handed queued)
    (reading : connection.readClosed = false) (fit : Frame.Fit more) (kept : Connection) :
    (kept.readClosed = false → Course id (some kept) handed (queued ++ more.map (.received id))) ∧
      (kept.readClosed = true →
        Course id (some kept) handed (queued ++ more.map (.received id) ++ [.disconnected id])) ∧
      Course id none handed (queued ++ more.map (.received id) ++ [.timedOut id]) := by
  -- A connection that is read is not closing, so all that was told of it are packets.
  cases course with
  | closing connection packets _ unread => simp [reading] at unread
  | going connection packets fits _ told =>
    have all : Frame.Fit (packets ++ more) := by
      intro packet member
      rcases List.mem_append.mp member with old | new
      · exact fits packet old
      · exact fit packet new
    have longer : handed ++ (queued ++ more.map (.received id)) =
        .connected id :: (packets ++ more).map (.received id) := by
      rw [← List.append_assoc, told, List.map_append, List.cons_append]
    exact ⟨fun reading => .going kept _ all reading longer,
      fun unread => .closing kept _ all unread longer, .silent _ all longer⟩

/-- The queue holds the end of a connection that is not read any more, as the last event of it. -/
theorem ends {connection : Connection} (course : Course id (some connection) handed queued)
    (unread : connection.readClosed = true) :
    ∃ earlier, queued = earlier ++ [.disconnected id] ∧ .disconnected id ∉ earlier := by
  -- The end is queued when the reading stops, and stays the last event.
  cases course with
  | going connection packets fit reading => simp [unread] at reading
  | @closing _ earlier connection packets fit _ told =>
    exact ⟨earlier, rfl, disconnected_notMem fun event member =>
      told ▸ List.mem_append_right _ member⟩

/-- It holds the end of no other one. -/
theorem endless (course : Course id entry handed queued)
    (reading : ∀ connection, entry = some connection → connection.readClosed = false) :
    .disconnected id ∉ queued := by
  -- The cases are those without an end in the queue. In the last one the end is another report.
  cases course with
  | quiet => simp
  | going connection packets fit _ told =>
    exact disconnected_notMem fun event member => told ▸ List.mem_append_right _ member
  | closing connection packets fit unread => simp [reading connection rfl] at unread
  | silent packets fit told =>
    have before := disconnected_notMem fun event member =>
      told ▸ List.mem_append_right handed member
    simpa using before

/-- The report of a silence is queued exactly if the entry is gone and something is queued. -/
theorem timedOut_mem_iff (course : Course id entry handed queued) :
    .timedOut id ∈ queued ↔ entry = none ∧ queued ≠ [] := by
  -- What comes before the end of a connection is no report of a silence.
  have before {events : List Event} {packets : List Bytes}
      (told : handed ++ events = .connected id :: packets.map (.received id)) :
      .timedOut id ∉ events := by
    intro member
    have wrong : .timedOut id ∈ Event.connected id :: packets.map (.received id) :=
      told ▸ List.mem_append_right _ member
    simp at wrong
  -- Only the queue of a silent connection holds the report, and it has no entry.
  cases course with
  | quiet => simp
  | going connection packets fit reading told => simp [before told]
  | closing connection packets fit unread told => simp [before told]
  | silent packets fit told => simp

end Course

end CallGate
