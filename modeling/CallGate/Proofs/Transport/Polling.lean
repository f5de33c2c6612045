import CallGate.Transport.Tcp

/-! What a poll comes to, however often it wakes up on the way. -/

namespace CallGate.Tcp

variable {ν : Type}

/-- How a poll can end in the last state it comes to. -/
inductive Ended (network : Network ν) (last : Tcp ν) :
    Except TransportError (Option Event) → Tcp ν → Prop
  /-- The first event of the queue is handed out. -/
  | event {event : Event} {after : Tcp ν}
    (taken : last.nextEvent network = (some event, after)) :
    Ended network last (.ok (some event)) after
  /-- Nothing came until the deadline, or for too many wakeups. -/
  | idle : Ended network last (.ok none) last
  /-- A deadline lies past the range of the clock. -/
  | failed (error : TransportError) : Ended network last (.error error) last

/-- What holds in the last state holds after the poll, if handing out an event keeps it. -/
theorem Ended.keeps {network : Network ν} {last after : Tcp ν}
    {outcome : Except TransportError (Option Event)} (ended : Ended network last outcome after)
    {holds : Tcp ν → Prop} (reached : holds last)
    (taking : holds last → holds (last.nextEvent network).2) : holds after := by
  -- Only where an event is handed out is the state after the poll another one.
  cases ended with
  | event taken =>
    have handed := taking reached
    rwa [taken] at handed
  | idle => exact reached
  | failed error => exact reached

/-- There is no first event exactly if the queue is empty, and then nothing is taken. -/
theorem nextEvent_eq_none {network : Network ν} {tcp after : Tcp ν}
    (nothing : tcp.nextEvent network = (none, after)) : tcp.events = [] ∧ after = tcp := by
  -- The queue decides: an event in it would have been taken.
  unfold nextEvent at nothing
  split at nothing
  · rename_i empty
    exact ⟨empty, (Prod.mk.inj nothing).2.symm⟩
  · cases nothing
  · cases nothing

section Polling

variable (network : Network ν) (holds : Tcp ν → Prop)

/-- Whatever the clock, the waiting and the pumping keep holds in the last state of a poll. It pumps
only while its queue is empty. -/
theorem ended_pollUntil (clocked : ∀ tcp, holds tcp → holds (tcp.clock network).2)
    (rested : ∀ tcp span, holds tcp → holds (tcp.rest network span))
    (pumped : ∀ tcp, tcp.events = [] → holds tcp → holds (tcp.pump network))
    (deadline : Instant) (wakeups : Nat) {tcp : Tcp ν} (start : holds tcp) :
    ∃ last, holds last ∧ Ended network last (pollUntil network deadline wakeups tcp).1
      (pollUntil network deadline wakeups tcp).2 := by
  -- A wakeup tries the queue, pumps, tries again, and waits for the next one.
  induction wakeups generalizing tcp with
  | zero => exact ⟨tcp, start, .idle⟩
  | succ wakeups ih =>
    cases first : tcp.nextEvent network with
    | mk event? after =>
      cases event? with
      | some event =>
        simp only [pollUntil, first]
        exact ⟨tcp, start, .event first⟩
      | none =>
        obtain ⟨empty, rfl⟩ := nextEvent_eq_none first
        have reached := pumped after empty start
        -- Nothing was queued, so the poll pumps, and a pause may turn out to be past the clock.
        simp only [pollUntil, first]
        split
        · exact ⟨_, reached, .failed _⟩
        · cases second : (after.pump network).nextEvent network with
          | mk event? later =>
            cases event? with
            | some event => exact ⟨after.pump network, reached, .event second⟩
            | none =>
              obtain ⟨_, rfl⟩ := nextEvent_eq_none second
              -- Still nothing: the time decides whether there is another wakeup.
              simp only
              split
              · exact ⟨_, clocked _ reached, .idle⟩
              · split
                · exact ⟨_, clocked _ reached, .failed _⟩
                · exact ih (rested _ _ (clocked _ reached))

/-- The same of a whole poll. -/
theorem ended_poll (clocked : ∀ tcp, holds tcp → holds (tcp.clock network).2)
    (rested : ∀ tcp span, holds tcp → holds (tcp.rest network span))
    (pumped : ∀ tcp, tcp.events = [] → holds tcp → holds (tcp.pump network))
    (wait : Duration) {tcp : Tcp ν} (start : holds tcp) :
    ∃ last, holds last ∧
      Ended network last (poll network wait tcp).1 (poll network wait tcp).2 := by
  -- The deadline is added up first, and a poll without one ends at once.
  unfold poll
  simp only
  split
  · exact ⟨_, clocked tcp start, .failed _⟩
  · exact ended_pollUntil network holds clocked rested pumped _ _ (clocked tcp start)

end Polling

end CallGate.Tcp
