import CallGate.Proofs.Transport.Range
import Mathlib.Order.Bounds.Basic

/-! How long a poll waits: up to the earliest time something is due, in whole milliseconds that are
rounded up from whole microseconds, and so from anything but a remainder of less than one. -/

namespace CallGate

variable {ν : Type}

namespace Duration

/-- A span is waited for in its whole milliseconds, and one more for a microsecond beyond them. -/
theorem waitMilliseconds_eq (span : Duration) : span.waitMilliseconds =
    min (span.nanoseconds / 1000000 + if 1000 ≤ span.nanoseconds % 1000000 then 1 else 0)
      longestWait := by
  -- Rounding down to microseconds first loses up to one, and rounding up adds a millisecond.
  rw [waitMilliseconds]
  congr 1
  split <;> omega

/-- What a span has beyond its whole milliseconds is nothing, or at least a microsecond. -/
def RoundsUp (span : Duration) : Prop :=
  span.nanoseconds % 1000000 = 0 ∨ 1000 ≤ span.nanoseconds % 1000000

/-- The least whole milliseconds that a span fits in. -/
theorem isLeast_milliseconds (span : Duration) :
    IsLeast {count | span.nanoseconds ≤ count * 1000000}
      ((span.nanoseconds + 999999) / 1000000) := by
  -- The count holds the span, and any count that does is no smaller.
  constructor
  · show span.nanoseconds ≤ (span.nanoseconds + 999999) / 1000000 * 1000000
    omega
  · intro count enough
    have enough : span.nanoseconds ≤ count * 1000000 := enough
    omega

/-- A span that rounds up is waited for as a whole, and for no millisecond more. -/
theorem waitMilliseconds_of_roundsUp {span : Duration} (up : span.RoundsUp) :
    span.waitMilliseconds = min ((span.nanoseconds + 999999) / 1000000) longestWait := by
  rw [waitMilliseconds_eq]
  congr 1
  -- Either there is nothing beyond the whole milliseconds, or at least a microsecond.
  rcases up with whole | micro
  · rw [if_neg (by omega)]
    omega
  · rw [if_pos micro]
    omega

/-- Any other span is cut down to its whole milliseconds. -/
theorem waitMilliseconds_of_not_roundsUp {span : Duration} (down : ¬span.RoundsUp) :
    span.waitMilliseconds = min (span.nanoseconds / 1000000) longestWait := by
  have few : ¬1000 ≤ span.nanoseconds % 1000000 := fun micro => down (.inr micro)
  -- Less than a microsecond beyond them is lost before rounding up.
  rw [waitMilliseconds_eq, if_neg few, Nat.add_zero]

/-- Only what is shorter than a microsecond is not waited for at all. -/
theorem waitMilliseconds_eq_zero_iff (span : Duration) :
    span.waitMilliseconds = 0 ↔ span.nanoseconds < 1000 := by
  -- The wait is nothing exactly if the span has no whole microsecond.
  rw [waitMilliseconds, longestWait]
  omega

/-- A wait that is not cut short leaves less than a microsecond of its span. -/
theorem lt_waitMilliseconds {span : Duration}
    (uncapped : span.nanoseconds ≤ longestWait * 1000000) :
    span.nanoseconds < span.waitMilliseconds * 1000000 + 1000 := by
  -- What is lost is what was beyond the whole microseconds.
  rw [waitMilliseconds]
  omega

/-- If the span rounds up, the wait leaves nothing of it. -/
theorem le_waitMilliseconds {span : Duration} (up : span.RoundsUp)
    (uncapped : span.nanoseconds ≤ longestWait * 1000000) :
    span.nanoseconds ≤ span.waitMilliseconds * 1000000 := by
  rw [waitMilliseconds_of_roundsUp up, Nat.min_def]
  -- The wait is not the longest one, or the span is no longer than that.
  split
  · exact span.isLeast_milliseconds.1
  · exact uncapped

end Duration

namespace Tcp

/-- The times at which a poll has something to do without being woken: its deadline, the end of the
silence of a connection that is still read, and the end of a pause. -/
inductive Due (tcp : Tcp ν) (deadline : Instant) : Nat → Prop
  | deadline : Due tcp deadline deadline.nanoseconds
  | silence {entry : ConnectionId × Connection} (member : entry ∈ tcp.connections.entries)
    (reading : entry.2.readClosed = false) :
    Due tcp deadline (entry.2.lastActivity.nanoseconds + tcp.idleTimeout.nanoseconds)
  | reopening {instant : Instant} (paused : tcp.acceptPausedUntil = some instant) :
    Due tcp deadline instant.nanoseconds

/-- The earliest of some instants is one of them, and none comes before it. -/
theorem foldl_earliest (instants : List Instant) (start : Instant) :
    instants.foldl Instant.earliest start ∈ start :: instants ∧
      ∀ instant ∈ start :: instants,
        (instants.foldl Instant.earliest start).nanoseconds ≤ instant.nanoseconds := by
  -- The instants are compared one by one with the earliest so far.
  induction instants generalizing start with
  | nil => exact ⟨List.mem_cons_self, fun instant here =>
      Nat.le_of_eq (by rw [List.mem_singleton.mp here, List.foldl_nil])⟩
  | cons next rest ih =>
    -- The first two are compared, and the earlier of them stands for both.
    have either : start.earliest next = start ∨ start.earliest next = next := by
      unfold Instant.earliest
      split
      · exact .inr rfl
      · exact .inl rfl
    have first : (start.earliest next).nanoseconds ≤ start.nanoseconds ∧
        (start.earliest next).nanoseconds ≤ next.nanoseconds := by
      unfold Instant.earliest
      split <;> omega
    obtain ⟨among, least⟩ := ih (start.earliest next)
    have earlier := least _ List.mem_cons_self
    rw [List.foldl_cons]
    constructor
    -- The one that is left is among the later ones, or it is the earlier of the first two.
    · rcases List.mem_cons.mp among with same | later
      · rw [same]
        rcases either with left | right
        · rw [left]
          exact List.mem_cons_self
        · rw [right]
          exact List.mem_cons_of_mem _ List.mem_cons_self
      · exact List.mem_cons_of_mem _ (List.mem_cons_of_mem _ later)
    · intro instant member
      rcases List.mem_cons.mp member with rfl | behind
      · exact Nat.le_trans earlier first.1
      · rcases List.mem_cons.mp behind with rfl | later
        · exact Nat.le_trans earlier first.2
        · exact least instant (List.mem_cons_of_mem _ later)

/-- Answers to all questions are the answers to each of them. -/
theorem mem_of_mapM_eq_some {α β : Type} {answer : α → Option β} {questions : List α}
    {answers : List β} (answered : questions.mapM answer = some answers) (found : β) :
    found ∈ answers ↔ ∃ question ∈ questions, answer question = some found := by
  -- The answers are put together question by question.
  induction questions generalizing answers with
  | nil =>
    cases answered
    simp
  | cons question questions ih =>
    rw [List.mapM_cons] at answered
    obtain ⟨first, here, answered⟩ := Option.bind_eq_some_iff.mp answered
    obtain ⟨rest, later, same⟩ := Option.bind_eq_some_iff.mp answered
    cases same
    simp [ih later, here, eq_comm]

/-- The instants told for connections that are still read are the ends of their silence. -/
theorem mem_expiries_iff {tcp : Tcp ν} {expiries : List Instant}
    (told : tcp.expiries = some expiries) (instant : Instant) :
    instant ∈ expiries ↔ ∃ entry ∈ tcp.connections.entries, entry.2.readClosed = false ∧
      entry.2.lastActivity.add? tcp.idleTimeout = some instant := by
  rw [mem_of_mapM_eq_some told]
  -- Each question is that of a connection which is still read.
  simp [and_assoc]

/-- The budget of a wait is the time up to whatever is due first, and nothing once that is past. -/
theorem exists_earliest_of_waitBudget {tcp : Tcp ν} {now deadline : Instant} {budget : Duration}
    (spared : tcp.waitBudget now deadline = some budget) :
    ∃ first, IsLeast {time | tcp.Due deadline time} first ∧
      budget.nanoseconds = first - now.nanoseconds := by
  obtain ⟨expiries, told, rfl⟩ := Option.map_eq_some_iff.mp spared
  obtain ⟨among, least⟩ :=
    foldl_earliest (expiries ++ tcp.acceptPausedUntil.toList) deadline
  -- What is compared are the times at which something is due, no more and no less.
  have compared (instant : Instant) :
      instant ∈ deadline :: (expiries ++ tcp.acceptPausedUntil.toList) ↔
        instant = deadline ∨ instant ∈ expiries ∨ tcp.acceptPausedUntil = some instant := by
    simp
  refine ⟨_, ⟨?_, ?_⟩, rfl⟩
  -- The earliest is the deadline, the end of a silence, or the end of a pause.
  · rcases (compared _).mp among with same | silent | paused
    · rw [same]
      exact .deadline
    · obtain ⟨entry, member, reading, added⟩ := (mem_expiries_iff told _).mp silent
      show Due tcp deadline _
      rw [Instant.nanoseconds_of_add? added]
      exact .silence member reading
    · exact .reopening paused
  -- Whatever is due was compared.
  · intro time due
    cases due with
    | deadline => exact least _ ((compared _).mpr (.inl rfl))
    | @silence entry member reading =>
      -- The end of this silence was told, or there would be no budget.
      cases added : entry.2.lastActivity.add? tcp.idleTimeout with
      | none =>
        have past := (Instant.add?_eq_none_iff ..).mp added
        have never := tcp.expiries_eq_none_iff.mpr ⟨entry, member, reading, past⟩
        rw [never] at told
        cases told
      | some instant =>
        rw [← Instant.nanoseconds_of_add? added]
        exact least _ ((compared _).mpr
          (.inr (.inl ((mem_expiries_iff told _).mpr ⟨entry, member, reading, added⟩))))
    | reopening paused => exact least _ ((compared _).mpr (.inr (.inr paused)))

/-- What a waiting transport asks of its machine, at any state and time. There is no budget exactly
if the silence of a connection ends past the range of the clock. Otherwise the budget is the time
up to whatever is due first, or nothing once that is past, and the machine is asked to wait for the
least whole milliseconds that hold it, up to the longest wait, if what it has beyond its whole
milliseconds is nothing or at least a microsecond. Less than a microsecond beyond them is dropped,
which is the only way to wait for nothing before anything is due, or to have slept as long as was
asked with nothing due. Even then, less than a microsecond is left. -/
theorem rest_until_due (network : Network ν) (tcp : Tcp ν) (now deadline : Instant) :
    (tcp.waitBudget now deadline = none ↔ ∃ entry ∈ tcp.connections.entries,
      entry.2.readClosed = false ∧
        Instant.limit ≤ entry.2.lastActivity.nanoseconds + tcp.idleTimeout.nanoseconds) ∧
    ∀ budget, tcp.waitBudget now deadline = some budget → ∃ first least milliseconds,
      IsLeast {time | tcp.Due deadline time} first ∧
      budget.nanoseconds = first - now.nanoseconds ∧
      IsLeast {count | budget.nanoseconds ≤ count * 1000000} least ∧
      (tcp.rest network budget).network = network.wait
        ((tcp.connections.entries.filter fun entry => !entry.2.readClosed).map (·.2.socket))
        tcp.acceptPausedUntil.isNone milliseconds tcp.network ∧
      (budget.RoundsUp → milliseconds = min least Duration.longestWait) ∧
      (¬budget.RoundsUp → milliseconds = min (least - 1) Duration.longestWait) ∧
      (milliseconds = 0 ↔ budget.nanoseconds < 1000) ∧
      (budget.nanoseconds ≤ Duration.longestWait * 1000000 → ∀ later,
        now.nanoseconds + milliseconds * 1000000 ≤ later →
          first < later + 1000 ∧ (budget.RoundsUp → first ≤ later)) := by
  refine ⟨?_, ?_⟩
  -- There is no budget exactly if some end of a silence cannot be told.
  · rw [waitBudget, Option.map_eq_none_iff, expiries_eq_none_iff]
  · intro budget spared
    obtain ⟨first, earliest, exact⟩ := exists_earliest_of_waitBudget spared
    refine ⟨first, _, budget.waitMilliseconds, earliest, exact, budget.isLeast_milliseconds, rfl,
      Duration.waitMilliseconds_of_roundsUp, ?_, budget.waitMilliseconds_eq_zero_iff, ?_⟩
    · -- A remainder that is dropped would have been the last millisecond.
      intro down
      rw [Duration.waitMilliseconds_of_not_roundsUp down]
      have beyond : budget.nanoseconds % 1000000 ≠ 0 := fun whole => down (.inl whole)
      congr 1
      omega
    -- Sleeping as long as was asked brings the time to what is due, but for what was lost.
    · intro uncapped later slept
      have near := Duration.lt_waitMilliseconds uncapped
      refine ⟨by omega, ?_⟩
      intro up
      have whole := Duration.le_waitMilliseconds up uncapped
      omega

/-- A client is connected whose silence ends one and a half milliseconds after the start, before the
deadline of the poll. -/
theorem rest_until_due_of_silent_client :
    let peer : SocketAddress := { ip := .v4 ⟨127, 0, 0, 1⟩, port := 40000 }
    let wire : Wire := { streams := [{ client := peer }], backlog := [0] }
    let start : Tcp Wire := {
      network := wire, maxClients := 4, idleTimeout := ⟨1500000⟩, patience := 3 }
    let tcp := (respondAll Wire.network [.poll ⟨0⟩] start).2
    tcp.waitBudget ⟨0⟩ ⟨2000000⟩ = some ⟨1500000⟩ ∧ Duration.RoundsUp ⟨1500000⟩ ∧
      IsLeast {time | tcp.Due ⟨2000000⟩ time} 1500000 ∧
      IsLeast {count | 1500000 ≤ count * 1000000} 2 ∧
      (tcp.rest Wire.network ⟨1500000⟩).network = Wire.network.wait [0] true 2 tcp.network := by
  intro peer wire start tcp
  have spared : tcp.waitBudget ⟨0⟩ ⟨2000000⟩ = some ⟨1500000⟩ := by decide +kernel
  have up : Duration.RoundsUp ⟨1500000⟩ := .inr (by decide)
  obtain ⟨_, budgeted⟩ := rest_until_due Wire.network tcp ⟨0⟩ ⟨2000000⟩
  obtain ⟨first, least, milliseconds, earliest, exact, fewest, asked, rounded, _⟩ :=
    budgeted ⟨1500000⟩ spared
  -- The budget names the end of the silence, and two milliseconds are the fewest that hold it.
  have silence : first = 1500000 := by simpa using exact.symm
  have two : least = 2 := fewest.unique (Duration.isLeast_milliseconds ⟨1500000⟩)
  have waited : milliseconds = 2 := by
    rw [rounded up, two]
    decide
  have sockets : (tcp.connections.entries.filter fun entry => !entry.2.readClosed).map
      (·.2.socket) = [0] := by decide +kernel
  have listening : tcp.acceptPausedUntil.isNone = true := by decide +kernel
  rw [silence] at earliest
  rw [two] at fewest
  rw [waited, sockets, listening] at asked
  exact ⟨spared, up, earliest, fewest, asked⟩

/-- One nanosecond before a microsecond is to go, a poll waits for nothing, however often it wakes
up. With a millisecond and one nanosecond to go, it sleeps as long as was asked, and nothing is
due. -/
theorem rest_before_due :
    let peer : SocketAddress := { ip := .v4 ⟨127, 0, 0, 1⟩, port := 40000 }
    let wire : Wire := { streams := [{ client := peer }], backlog := [0] }
    let start : Tcp Wire := {
      network := wire, maxClients := 4, idleTimeout := .ofSeconds 30, patience := 3 }
    let tcp := (respondAll Wire.network [.poll ⟨0⟩] start).2
    tcp.waitBudget ⟨0⟩ ⟨999⟩ = some ⟨999⟩ ∧ Duration.waitMilliseconds ⟨999⟩ = 0 ∧
      (poll Wire.network ⟨999⟩ tcp).2.network.time = tcp.network.time ∧
      tcp.waitBudget ⟨0⟩ ⟨1000001⟩ = some ⟨1000001⟩ ∧
      Duration.waitMilliseconds ⟨1000001⟩ = 1 ∧
      ¬IsLeast {count | 1000001 ≤ count * 1000000} 1 ∧
      (tcp.rest Wire.network ⟨1000001⟩).network.time = 1000000 ∧
      ∀ time, tcp.Due ⟨1000001⟩ time → 1000000 < time := by
  intro peer wire start tcp
  -- The budget is the whole time up to the deadline, so nothing is due before.
  have spared : tcp.waitBudget ⟨0⟩ ⟨1000001⟩ = some ⟨1000001⟩ := by decide +kernel
  obtain ⟨first, earliest, exact⟩ := exists_earliest_of_waitBudget spared
  have deadline : first = 1000001 := by simpa using exact.symm
  refine ⟨by decide +kernel, by decide, by decide +kernel, spared, by decide, ?_,
    by decide +kernel, ?_⟩
  · -- A whole millisecond does not hold what is beyond it.
    intro least
    have held : 1000001 ≤ 1 * 1000000 := least.1
    omega
  · intro time due
    have later : first ≤ time := earliest.2 due
    omega

end Tcp

end CallGate
