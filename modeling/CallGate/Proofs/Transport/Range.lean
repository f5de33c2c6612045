import CallGate.Proofs.Settings
import CallGate.Proofs.Transport.Age
import CallGate.Transport.Wire

/-! The times a poll adds up, and where they lie past the range of the clock. -/

namespace CallGate

variable {ν : Type}

/-- An instant is past the range of the clock exactly if the count of its nanoseconds is. -/
theorem Instant.add?_eq_none_iff (instant : Instant) (span : Duration) :
    instant.add? span = none ↔ Instant.limit ≤ instant.nanoseconds + span.nanoseconds := by
  -- Adding checks the sum against the limit of the clock.
  simp [Instant.add?]

/-- An instant that is in range is as late as the sum says. -/
theorem Instant.nanoseconds_of_add? {instant sum : Instant} {span : Duration}
    (added : instant.add? span = some sum) :
    sum.nanoseconds = instant.nanoseconds + span.nanoseconds := by
  -- Either the sum is the result, or there is none.
  rw [Instant.add?] at added
  split at added <;> cases added
  rfl

/-- Any number of milliseconds fits while the clock has all of them left. -/
theorem Instant.isSome_add?_ofMilliseconds (now : Instant) (count : UInt64)
    (young : now.nanoseconds + 2 ^ 64 * 1000000 ≤ Instant.limit) :
    (now.add? (.ofMilliseconds count)).isSome := by
  -- A word of milliseconds is less than all of them.
  have small : count.toNat < 2 ^ 64 := count.toNat_lt
  rw [Option.isSome_iff_ne_none, Ne, Instant.add?_eq_none_iff, Duration.ofMilliseconds]
  dsimp only
  omega

namespace Tcp

/-- A transport is opened with what the caller says, and nothing else is known yet. -/
theorem bind_eq_ok {network : Network ν} {name : String} {maxClients : UInt64}
    {idleTimeout : Duration} {patience : Nat} {state after : ν} {address : SocketAddress}
    {tcp : Tcp ν} (bound : bind network name maxClients idleTimeout patience state =
      (.ok (address, tcp), after)) :
    tcp = { network := after, maxClients, idleTimeout, patience } := by
  -- There is no transport if there is no listener.
  unfold bind at bound
  split at bound
  · cases bound
  · cases bound
    rfl

/-- An address that is spelled out and can be listened at is opened. -/
theorem bind_of_address {network : Network ν} {name : String} {address : SocketAddress}
    (understood : Address.endpoint name = .ok (.address address)) {state middle after : ν}
    (listening : network.listen address state = (.ok (), middle))
    (unblocked : network.unblock middle = (.ok (), after)) (maxClients : UInt64)
    (idleTimeout : Duration) (patience : Nat) :
    bind network name maxClients idleTimeout patience state =
      (.ok (address, { network := after, maxClients, idleTimeout, patience }), after) := by
  -- Nothing is looked up, and there is one address to try.
  unfold bind Network.openListener Network.addresses
  simp only [understood, Network.listenAtFirst, listening, unblocked]

/-- There are no answers exactly if there is none for one of the questions. -/
theorem mapM_eq_none_iff {α β : Type} (answer : α → Option β) (questions : List α) :
    questions.mapM answer = none ↔ ∃ question ∈ questions, answer question = none := by
  -- The questions are answered in turn, and the first without an answer ends it.
  induction questions with
  | nil => simp
  | cons question questions ih =>
    rw [List.mapM_cons]
    cases here : answer question with
    | none => simp [here]
    | some found =>
      -- It is up to the other questions then.
      have more : (some found >>= fun first => questions.mapM answer >>= fun rest =>
          pure (first :: rest)) = none ↔ questions.mapM answer = none := by
        cases questions.mapM answer <;> simp
      rw [more, ih]
      simp [here]

/-- There is no span to wait for exactly if a connection that is still read would have been silent
for too long past the range of the clock. -/
theorem expiries_eq_none_iff (tcp : Tcp ν) : tcp.expiries = none ↔
    ∃ entry ∈ tcp.connections.entries, entry.2.readClosed = false ∧
      Instant.limit ≤ entry.2.lastActivity.nanoseconds + tcp.idleTimeout.nanoseconds := by
  -- Each connection that is still read is asked for the end of its silence.
  simp [expiries, mapM_eq_none_iff, Instant.add?_eq_none_iff, and_assoc]

/-- A pause cannot be told exactly if it ends past the range of the clock. -/
theorem outlasts_eq_true_iff {tcp : Tcp ν} : tcp.outlasts = true ↔
    ∃ reopening, tcp.acceptPausedUntil = some reopening ∧
      Instant.limit ≤ reopening.nanoseconds := by
  -- Without a pause there is nothing to tell.
  unfold outlasts
  cases tcp.acceptPausedUntil <;> simp

/-- A poll that has a deadline fails only for a pause that cannot be told, or where it should wait
and cannot tell for how long. -/
theorem expiries_of_pollUntil_eq_error {network : Network ν} {deadline : Instant} {wakeups : Nat}
    {tcp after : Tcp ν} {error : TransportError}
    (failed : pollUntil network deadline wakeups tcp = (.error error, after)) :
    error = .clockOverflow ∧ (after.outlasts = true ∨ after.expiries = none) := by
  -- A wakeup that hands something out or comes late does not fail, and one that waits has not yet.
  induction wakeups generalizing tcp with
  | zero => cases failed
  | succ wakeups ih =>
    simp only [pollUntil] at failed
    split at failed
    · cases failed
    · split at failed
      · rename_i past
        cases failed
        exact ⟨rfl, .inl past⟩
      · split at failed
        · cases failed
        · split at failed
          · cases failed
          · split at failed
            · rename_i never
              cases failed
              exact ⟨rfl, .inr (by simpa [waitBudget] using never)⟩
            · exact ih failed

/-- A poll fails for its own deadline, for the end of a pause, or for that of a connection. -/
theorem expiries_of_poll_eq_error {network : Network ν} {wait : Duration} {tcp after : Tcp ν}
    {error : TransportError} (failed : poll network wait tcp = (.error error, after)) :
    error = .clockOverflow ∧
      ((tcp.clock network).1.add? wait = none ∨ after.outlasts = true ∨ after.expiries = none) := by
  -- The deadline is added up before anything else is done.
  simp only [poll] at failed
  split at failed
  · rename_i late
    cases failed
    exact ⟨rfl, .inl late⟩
  · obtain ⟨overflow, never⟩ := expiries_of_pollUntil_eq_error failed
    exact ⟨overflow, .inr never⟩

/-- A poll that finds nothing and has time left fails if a connection is still read whose silence
may last past the range of the clock. -/
theorem poll_eq_clockOverflow {network : Network ν} {wait : Duration} {tcp : Tcp ν}
    (patient : 0 < tcp.patience) (quiet : tcp.events = [])
    (still : ((tcp.clock network).2.pump network).events = [])
    (soon : (((tcp.clock network).2.pump network).clock network).1.nanoseconds <
      (tcp.clock network).1.nanoseconds + wait.nanoseconds)
    (never : ((tcp.clock network).2.pump network).expiries = none) :
    (poll network wait tcp).1 = .error .clockOverflow := by
  -- The poll fails at once if the deadline cannot be added up, with the same error.
  simp only [poll]
  split
  · rfl
  · rename_i deadline added
    -- The clock is read and the deadline added up, and both tries at the queue find nothing.
    have due := Instant.nanoseconds_of_add? added
    have same : (tcp.clock network).2.patience = tcp.patience := rfl
    obtain ⟨wakeups, woken⟩ := Nat.exists_eq_succ_of_ne_zero (Nat.ne_of_gt patient)
    have first : (tcp.clock network).2.nextEvent network = (none, (tcp.clock network).2) := by
      simp [nextEvent, clock, quiet]
    have second : ((tcp.clock network).2.pump network).nextEvent network =
        (none, (tcp.clock network).2.pump network) := by
      simp [nextEvent, still]
    have later : (((tcp.clock network).2.pump network).clock network).2.expiries = none := never
    rw [same, woken, pollUntil]
    simp only [first]
    -- A pause that cannot be told fails the poll, again with the same error.
    split
    · rfl
    · simp only [second, waitBudget, later, Option.map_none]
      rw [if_neg (by omega)]

/-- In a poll that comes after all others, every reading of the clock is known, every connection
was active last at one of them and a pause began at one, and silence may last as long as the caller
said. -/
theorem told_of_last_poll (network : Network ν) (asks : List (Ask ν)) (wait : Duration)
    {start : Tcp ν} (empty : start.connections.entries = [])
    (accepting : start.acceptPausedUntil = none) :
    let tcp := (respondAll network asks start).2
    let pumped := (tcp.clock network).2.pump network
    let result := poll network wait tcp
    let time := latest network (asks ++ [.poll wait]) start
    (tcp.clock network).1.nanoseconds ≤ time ∧ pumped.idleTimeout = start.idleTimeout ∧
      result.2.idleTimeout = start.idleTimeout ∧
      (∀ entry ∈ result.2.connections.entries, entry.2.lastActivity.nanoseconds ≤ time) ∧
      ∀ reopening, result.2.acceptPausedUntil = some reopening →
        reopening.nanoseconds ≤ time + acceptBackoff.nanoseconds := by
  intro tcp pumped result time
  -- The run is followed on the machine that keeps the time, up to the poll and through it.
  have seen : respondAll network asks start = _ :=
    bare_respondAll network.timed_mirrors asks (start.beside 0)
  have total : time = (poll network.timed wait
      (respondAll network.timed (asks.map Ask.beside) (start.beside 0)).2).2.network.2 := by
    simp only [time, latest, List.map_append, respondAll_append]
    rfl
  have before := Ages.respondAll network asks (start.beside 0)
  generalize respondAll network.timed (asks.map Ask.beside) (start.beside 0) = run
    at seen total before
  have same : tcp = run.2.bare := congrArg Prod.snd seen
  have polled : result.2 = (poll network.timed wait run.2).2.bare := by
    simp only [result, same, bare_poll network.timed_mirrors, Prod.map_snd]
  have clocked : tcp.clock network = Prod.map id bare (run.2.clock network.timed) := by
    rw [same, bare_clock network.timed_mirrors]
  have pumping : pumped = ((run.2.clock network.timed).2.pump network.timed).bare := by
    simp only [pumped, clocked, bare_pump network.timed_mirrors, Prod.map_snd]
  -- All connections and pauses are those of the run, since there were none at the start.
  have whole := before.trans (Ages.poll network wait run.2)
  have told := whole.told {
    active := fun entry member => by simp [beside, empty] at member
    paused := fun reopening pause => by simp [beside, accepting] at pause }
  -- Each part is read off the run that keeps the time.
  refine ⟨?_, ?_, ?_, ?_, ?_⟩
  · rw [clocked, total]
    exact Nat.le_trans (Nat.le_max_right ..) (Ages.poll_of_clock network wait run.2).later
  · rw [pumping]
    exact (before.trans ((Ages.clock network run.2).trans (Ages.pump network _))).idleTimeout
  · rw [polled]
    exact whole.idleTimeout
  · rw [polled, total]
    exact told.active
  · rw [polled, total]
    exact told.paused

/-- Whatever settings a server accepts, and whatever happened before: while the clock has five
hundred million years left, no deadline of a poll and no pause lies past its range. What may lie
there is the end of a connection's silence, which a poll fails for if it has to wait for it. No
timeout within the range does so, and one past the range does so as soon as there is a wait. -/
theorem poll_in_range (network : Network ν) {settings : Settings} {plan : LaunchPlan}
    (valid : settings.validate = .ok plan) {patience : Nat} {state after : ν}
    {address : SocketAddress} {start : Tcp ν}
    (bound : bind network plan.bindAddress plan.maxClients plan.idleTimeout patience state =
      (.ok (address, start), after))
    (asks : List (Ask ν))
    (young : latest network (asks ++ [.poll plan.pollInterval]) start + 2 ^ 64 * 1000000 ≤
      Instant.limit) :
    let tcp := (respondAll network asks start).2
    let pumped := (tcp.clock network).2.pump network
    let result := poll network plan.pollInterval tcp
    let time := latest network (asks ++ [.poll plan.pollInterval]) start
    let timeout := settings.idleSeconds.toNat * 1000000000
    ((tcp.clock network).1.nanoseconds ≤ time ∧ ∀ now : Instant, now.nanoseconds ≤ time →
      (now.add? plan.pollInterval).isSome ∧ (now.add? acceptBackoff).isSome) ∧
    (∀ error, result.1 = .error error → error = .clockOverflow ∧
      ∃ entry ∈ result.2.connections.entries, entry.2.readClosed = false ∧
        entry.2.lastActivity.nanoseconds ≤ time ∧
        Instant.limit ≤ entry.2.lastActivity.nanoseconds + timeout) ∧
    (time + timeout < Instant.limit → ∃ event?, result.1 = .ok event?) ∧
    (Instant.limit ≤ timeout → 0 < tcp.patience → tcp.events = [] → pumped.events = [] →
      (pumped.clock network).1.nanoseconds <
        (tcp.clock network).1.nanoseconds + plan.pollInterval.nanoseconds →
      (∃ entry ∈ pumped.connections.entries, entry.2.readClosed = false) →
      result.1 = .error .clockOverflow) := by
  intro tcp pumped result time timeout
  -- The settings are valid, so the intervals of the plan are known from them.
  obtain ⟨_, _, _, _, _, _, _, _, planned⟩ := (settings.validate_eq_ok_iff plan).mp valid
  have interval : plan.pollInterval = .ofMilliseconds settings.pollMilliseconds := by rw [planned]
  have opened := bind_eq_ok bound
  have empty : start.connections.entries = [] := by
    rw [opened]
    rfl
  have allowed : start.idleTimeout.nanoseconds = timeout := by
    rw [opened, planned]
    rfl
  have accepting : start.acceptPausedUntil = none := by rw [opened]
  obtain ⟨begun, pumpedTimeout, leftTimeout, told, paused⟩ :=
    told_of_last_poll network asks plan.pollInterval empty accepting
  -- The pause is a number of milliseconds like any poll interval, and both fit.
  have inRange (now : Instant) (early : now.nanoseconds ≤ time) :
      (now.add? plan.pollInterval).isSome ∧ (now.add? acceptBackoff).isSome := by
    have young := Nat.le_trans (Nat.add_le_add_right early _) young
    rw [interval]
    exact ⟨now.isSome_add?_ofMilliseconds _ young, now.isSome_add?_ofMilliseconds 100 young⟩
  have failing (error : TransportError) (failed : result.1 = .error error) :
      error = .clockOverflow ∧ ∃ entry ∈ result.2.connections.entries,
        entry.2.readClosed = false ∧ entry.2.lastActivity.nanoseconds ≤ time ∧
          Instant.limit ≤ entry.2.lastActivity.nanoseconds + timeout := by
    -- The deadline and a pause are in range, so it is a connection's silence that ends too late.
    obtain ⟨overflow, late⟩ := expiries_of_poll_eq_error (Prod.ext failed rfl)
    have due := (inRange _ begun).1
    refine ⟨overflow, ?_⟩
    rcases late with never | past | never
    · rw [never] at due
      cases due
    · obtain ⟨reopening, pause, late⟩ := outlasts_eq_true_iff.mp past
      have fits := (inRange ⟨time⟩ (Nat.le_refl _)).2
      rw [Option.isSome_iff_ne_none, Ne, Instant.add?_eq_none_iff] at fits
      exact absurd (Nat.le_trans late (paused reopening pause)) fits
    · obtain ⟨entry, member, reading, past⟩ := (expiries_eq_none_iff _).mp never
      rw [leftTimeout, allowed] at past
      exact ⟨entry, member, reading, told entry member, past⟩
  refine ⟨⟨begun, inRange⟩, failing, fun small => ?_,
    fun large patient quiet still soon waiting => ?_⟩
  · -- A poll that failed would have found a connection for which the timeout is too long.
    cases outcome : result.1 with
    | ok event? => exact ⟨event?, rfl⟩
    | error error =>
      obtain ⟨_, entry, _, _, early, past⟩ := failing error outcome
      omega
  · -- Even a connection that was active at the start of the clock is silent past its range.
    obtain ⟨entry, member, reading⟩ := waiting
    refine poll_eq_clockOverflow patient quiet still soon
      ((expiries_eq_none_iff _).mpr ⟨entry, member, reading, ?_⟩)
    rw [pumpedTimeout, allowed]
    exact Nat.le_trans large (Nat.le_add_left ..)

/-- A client connects and stays silent for a second, which the default of thirty allows for. -/
theorem poll_in_range_of_silent_client :
    let peer : SocketAddress := { ip := .v4 ⟨127, 0, 0, 1⟩, port := 40000 }
    let wire : Wire := { streams := [{ client := peer }], backlog := [0] }
    let settings : Settings := {
      publicKey := some "p.bin", privateKey := some "k.bin", descriptor := some "r.tether" }
    let plan : LaunchPlan := {
      bindAddress := "0.0.0.0:1234", maxClients := 128, publicKey := "p.bin"
      privateKey := "k.bin", descriptor := "r.tether", pollInterval := .ofMilliseconds 1000
      idleTimeout := .ofSeconds 30 }
    let start : Tcp Wire := {
      network := wire, maxClients := plan.maxClients, idleTimeout := plan.idleTimeout
      patience := 3 }
    let asks : List (Ask Wire) := [.poll plan.pollInterval]
    settings.validate = .ok plan ∧
      bind Wire.network plan.bindAddress plan.maxClients plan.idleTimeout 3 wire =
        (.ok ({ ip := .v4 ⟨0, 0, 0, 0⟩, port := 1234 }, start), wire) ∧
      latest Wire.network (asks ++ [.poll plan.pollInterval]) start = 1000000000 ∧
      (respondAll Wire.network asks start).1 = [.connected ⟨1⟩] ∧
      ∃ event?, (poll Wire.network plan.pollInterval
        (respondAll Wire.network asks start).2).1 = .ok event? := by
  intro peer wire settings plan start asks
  -- The settings are checked by their conditions, and the rest is computed on the wire.
  have valid : settings.validate = .ok plan := (Settings.validate_eq_ok_iff ..).mpr
    ⟨by decide, by decide, _, _, _, rfl, rfl, rfl, by decide +kernel⟩
  have bound : bind Wire.network plan.bindAddress plan.maxClients plan.idleTimeout 3 wire =
      (.ok ({ ip := .v4 ⟨0, 0, 0, 0⟩, port := 1234 }, start), wire) :=
    bind_of_address (by decide +kernel) rfl rfl ..
  have time : latest Wire.network (asks ++ [.poll plan.pollInterval]) start = 1000000000 := by
    decide +kernel
  have young : latest Wire.network (asks ++ [.poll plan.pollInterval]) start + 2 ^ 64 * 1000000 ≤
      Instant.limit := by
    rw [time]
    decide
  obtain ⟨_, _, fine, _⟩ := poll_in_range Wire.network valid bound asks young
  refine ⟨valid, bound, time, by decide +kernel, fine ?_⟩
  rw [time]
  decide

/-- A timeout of 2⁶³ seconds is accepted. One client that connects and says nothing makes the next
poll fail. -/
theorem clockOverflow_of_long_timeout :
    let peer : SocketAddress := { ip := .v4 ⟨127, 0, 0, 1⟩, port := 40000 }
    let wire : Wire := { streams := [{ client := peer }], backlog := [0] }
    let settings : Settings := {
      publicKey := some "p.bin", privateKey := some "k.bin", descriptor := some "r.tether"
      idleSeconds := 9223372036854775808 }
    let plan : LaunchPlan := {
      bindAddress := "0.0.0.0:1234", maxClients := 128, publicKey := "p.bin"
      privateKey := "k.bin", descriptor := "r.tether", pollInterval := .ofMilliseconds 1000
      idleTimeout := .ofSeconds 9223372036854775808 }
    let start : Tcp Wire := {
      network := wire, maxClients := plan.maxClients, idleTimeout := plan.idleTimeout
      patience := 3 }
    let first := respondAll Wire.network [.poll plan.pollInterval] start
    settings.validate = .ok plan ∧
      bind Wire.network plan.bindAddress plan.maxClients plan.idleTimeout 3 wire =
        (.ok ({ ip := .v4 ⟨0, 0, 0, 0⟩, port := 1234 }, start), wire) ∧
      first.1 = [.connected ⟨1⟩] ∧
      (poll Wire.network plan.pollInterval first.2).1 = .error .clockOverflow := by
  intro peer wire settings plan start first
  -- The settings are checked by their conditions, as for a shorter timeout.
  have valid : settings.validate = .ok plan := (Settings.validate_eq_ok_iff ..).mpr
    ⟨by decide, by decide, _, _, _, rfl, rfl, rfl, by decide +kernel⟩
  -- The client is greeted, and the next poll has nothing to report and should wait for it.
  have overflow : (poll Wire.network plan.pollInterval first.2).1 = .error .clockOverflow :=
    poll_eq_clockOverflow (by decide +kernel) (by decide +kernel) (by decide +kernel)
      (by decide +kernel) (by decide +kernel)
  exact ⟨valid, bind_of_address (by decide +kernel) rfl rfl .., by decide +kernel, overflow⟩

end Tcp

end CallGate
