import CallGate.Proofs.Transport.Admission

/-! The places of a transport: how many there are, who takes one, and who has one still. -/

namespace CallGate

variable {ν : Type}

/-- Noting the readings changes nothing in what the machine does. -/
theorem Network.logged_mirrors (network : Network ν) : network.logged.Mirrors network where
  now _ := rfl
  arrivals _ := rfl
  read _ _ := rfl
  write _ _ _ := rfl
  shutdown _ _ := rfl
  wait _ _ _ _ := rfl

namespace Tcp

/-- What every turn keeps holds after all of them. -/
theorem run_keeps (network : Network ν) {holds : Tcp (ν × List Reading) → Prop}
    (step : ∀ first tcp, holds tcp → holds (turn network first tcp).2) (turns : List (Turn ν))
    {tcp : Tcp (ν × List Reading)} (start : holds tcp) : holds (run network turns tcp).2 := by
  -- The turns are taken one after the other.
  induction turns generalizing tcp with
  | nil => exact start
  | cons first turns ih => exact ih (step first tcp start)

/-- The table stays within its limits through every turn. -/
theorem Slots.turn (network : Network ν) (first : Turn ν) {tcp : Tcp (ν × List Reading)}
    (slots : Slots tcp) : Slots (Tcp.turn network first tcp).2 := by
  -- Each turn is one of the operations, for which this was shown.
  cases first with
  | accept now => exact slots.accept network.logged now
  | attend now id => exact slots.attend network.logged now id
  | next => exact slots.nextEvent network.logged
  | send id packet => exact slots.send network.logged id packet
  | disconnect id => exact slots.disconnect network.logged id
  | world change => exact slots.congr rfl rfl rfl

/-- Who is admitted in a turn. -/
def admittedIn (network : Network ν) (first : Turn ν) (tcp : Tcp (ν × List Reading)) :
    List Admission :=
  match first with
  | .accept now => admittedBy network.logged now tcp
  | _ => []

/-- Who is admitted in the course of turns, first to last. -/
def admitted (network : Network ν) : List (Turn ν) → Tcp (ν × List Reading) → List Admission
  | [], _ => []
  | first :: turns, tcp =>
    admittedIn network first tcp ++ admitted network turns (turn network first tcp).2

/-- Those admitted in some turns and then in others are admitted in all of them. -/
theorem admitted_append (network : Network ν) (first last : List (Turn ν))
    (tcp : Tcp (ν × List Reading)) : admitted network (first ++ last) tcp =
      admitted network first tcp ++ admitted network last (run network first tcp).2 := by
  -- The later turns start where the earlier ones have ended.
  induction first generalizing tcp with
  | nil => rfl
  | cons turn turns ih => simp [admitted, run, ih]

/-- Numbers are given to those who are admitted, in a row, and to nobody else. -/
theorem nextId_turn (network : Network ν) (first : Turn ν) (tcp : Tcp (ν × List Reading)) :
    (turn network first tcp).2.nextId =
      tcp.nextId + UInt64.ofNat (admittedIn network first tcp).length := by
  have none : tcp.nextId + UInt64.ofNat 0 = tcp.nextId := UInt64.add_zero _
  -- Only accepting admits anybody.
  cases first with
  | accept now => exact (admits_accept network.logged now tcp).next
  | attend now id => exact (nextId_attend ..).trans none.symm
  | next => exact (nextId_nextEvent ..).trans none.symm
  | send id packet => exact (fixed_send fixed_nextId ..).trans none.symm
  | disconnect id => exact (nextId_disconnect ..).trans none.symm
  | world change => exact none.symm

/-- In a turn numbers are given out in a row. -/
theorem numbered_turn (network : Network ν) (first : Turn ν) (tcp : Tcp (ν × List Reading)) :
    (admittedIn network first tcp).map (·.id.number) =
      numbers tcp.nextId (admittedIn network first tcp).length := by
  -- Only accepting gives out any.
  cases first with
  | accept now => exact (admits_accept network.logged now tcp).numbered
  | _ => rfl

/-- In many turns numbers are given out in one row. -/
theorem numbered_run (network : Network ν) (turns : List (Turn ν)) (tcp : Tcp (ν × List Reading)) :
    (admitted network turns tcp).map (·.id.number) =
        numbers tcp.nextId (admitted network turns tcp).length ∧
      (run network turns tcp).2.nextId =
        tcp.nextId + UInt64.ofNat (admitted network turns tcp).length := by
  -- The induction is on the turns, and the row is put together from the front.
  induction turns generalizing tcp with
  | nil => exact ⟨rfl, (UInt64.add_zero _).symm⟩
  | cons first turns ih =>
    -- The later turns go on with the number that the first one has left.
    obtain ⟨row, next⟩ := ih (turn network first tcp).2
    rw [nextId_turn] at row next
    rw [admitted, List.length_append, numbers_add, List.map_append, numbered_turn, row]
    refine ⟨rfl, ?_⟩
    rw [run, next, UInt64.ofNat_add, UInt64.add_assoc]

/-- No turn changes how many connections there may be. -/
theorem maxClients_turn (network : Network ν) (first : Turn ν) (tcp : Tcp (ν × List Reading)) :
    (turn network first tcp).2.maxClients = tcp.maxClients := by
  -- The limit is set once and for all, and no turn writes it.
  cases first with
  | accept now => exact (admits_accept network.logged now tcp).limit
  | attend now id => exact fixed_attend fixed_maxClients ..
  | next => exact fixed_nextEvent fixed_maxClients ..
  | send id packet => exact fixed_send fixed_maxClients ..
  | disconnect id => exact fixed_disconnect fixed_maxClients ..
  | world change => rfl

/-- What a turn queues. -/
def queuedIn (network : Network ν) (first : Turn ν) (tcp : Tcp (ν × List Reading)) : List Event :=
  match first with
  | .accept _ | .attend _ _ => (turn network first tcp).2.events.drop tcp.events.length
  | _ => []

/-- What turns queue, first to last. -/
def queued (network : Network ν) : List (Turn ν) → Tcp (ν × List Reading) → List Event
  | [], _ => []
  | first :: turns, tcp =>
    queuedIn network first tcp ++ queued network turns (turn network first tcp).2

/-- What is handed out or left in the queue was there before or is new. -/
theorem turn_sublist (network : Network ν) (first : Turn ν) (tcp : Tcp (ν × List Reading)) :
    ((turn network first tcp).1.toList ++ (turn network first tcp).2.events).Sublist
      (tcp.events ++ queuedIn network first tcp) := by
  -- Accepting and reading queue behind what is there, and handing out takes from the front.
  cases first with
  | accept now =>
    simp only [queuedIn, turn, (admits_accept network.logged now tcp).queued, List.drop_left]
    exact List.Sublist.refl _
  | attend now id =>
    obtain ⟨more, queued, _⟩ := attend_keeps network.logged now tcp id
    simp only [queuedIn, turn, queued, List.drop_left]
    exact List.Sublist.refl _
  | next => simp [turn, events_nextEvent, queuedIn]
  | send id packet => simp [turn, queuedIn, (send_keeps network.logged id packet tcp).1]
  | disconnect id =>
    -- The caller may have events dropped, and this adds none.
    simp only [turn, queuedIn, List.append_nil, Option.toList_none, List.nil_append, disconnect]
    split
    · simp
    · exact List.Sublist.refl _
  | world change => simp [turn, queuedIn]

/-- What is handed out or left after many turns was there before or is new. -/
theorem run_sublist (network : Network ν) (turns : List (Turn ν)) (tcp : Tcp (ν × List Reading)) :
    ((run network turns tcp).1 ++ (run network turns tcp).2.events).Sublist
      (tcp.events ++ queued network turns tcp) := by
  -- The induction is on the turns, and what is new is collected turn by turn.
  induction turns generalizing tcp with
  | nil => simp [run, queued]
  | cons first turns ih =>
    -- What the first turn leaves in the queue is what the later ones start with.
    have later := (ih (turn network first tcp).2).append_left (turn network first tcp).1.toList
    have now := (turn_sublist network first tcp).append_right
      (queued network turns (turn network first tcp).2)
    simpa [run, queued, List.append_assoc] using later.trans (by simpa using now)

/-- Reading a connection reports no new one. -/
theorem ungreeted_attend (network : Network ν) (now : Instant) (tcp : Tcp ν) (id : ConnectionId) :
    ∃ more, (attend network now tcp id).events = tcp.events ++ more ∧
      more.filterMap Event.greeted? = [] := by
  -- Packets are no reports of new connections.
  have packets (packets : List Bytes) :
      (packets.map (Event.received id)).filterMap Event.greeted? = [] := by
    simp [Event.greeted?, Function.comp_def]
  by_cases unread : ∀ connection, tcp.connections.get? id = some connection →
      connection.readClosed = true
  · rw [attend_of_unread unread]
    exact ⟨[], by simp⟩
  · simp only [Classical.not_forall, Bool.not_eq_true] at unread
    obtain ⟨connection, known, reading⟩ := unread
    obtain ⟨received, _, outcome⟩ := attend_of_reading network now known reading
    -- Packets are queued, and an ending may follow them.
    rcases outcome with ⟨_, _, _, queued⟩ | ⟨_, _, _, queued⟩ | ⟨_, queued⟩
    · exact ⟨_, queued, packets received⟩
    · rw [List.append_assoc] at queued
      exact ⟨_, queued, by rw [List.filterMap_append, packets]; rfl⟩
    · rw [List.append_assoc] at queued
      exact ⟨_, queued, by rw [List.filterMap_append, packets]; rfl⟩

/-- A connection is reported exactly when its peer is admitted. -/
theorem greeted_queuedIn (network : Network ν) (first : Turn ν) (tcp : Tcp (ν × List Reading)) :
    (queuedIn network first tcp).filterMap Event.greeted? =
      (admittedIn network first tcp).map (·.id) := by
  -- Only accepting admits, and of the turns that queue anything only it reports a new connection.
  cases first with
  | accept now =>
    simp only [queuedIn, turn, admittedIn, (admits_accept network.logged now tcp).queued,
      List.drop_left]
    simp [Event.greeted?, Function.comp_def]
  | attend now id =>
    obtain ⟨more, queued, ungreeted⟩ := ungreeted_attend network.logged now tcp id
    simpa [queuedIn, turn, admittedIn, queued] using ungreeted
  | _ => rfl

/-- Over many turns, a connection is reported exactly when its peer is admitted. -/
theorem greeted_queued (network : Network ν) (turns : List (Turn ν))
    (tcp : Tcp (ν × List Reading)) : (queued network turns tcp).filterMap Event.greeted? =
      (admitted network turns tcp).map (·.id) := by
  -- Both lists are put together turn by turn.
  induction turns generalizing tcp with
  | nil => rfl
  | cons first turns ih =>
    rw [queued, admitted, List.filterMap_append, List.map_append, greeted_queuedIn, ih]

/-- A ledger is kept by every turn, and takes a number for each who is admitted. -/
theorem Ledger.turn (network : Network ν) {given : Nat} {handed : List Event}
    {tcp : Tcp (ν × List Reading)} (ledger : Ledger given handed tcp) (first : Turn ν)
    (few : given + (admittedIn network first tcp).length < 2 ^ 64) :
    Ledger (given + (admittedIn network first tcp).length)
      (handed ++ (Tcp.turn network first tcp).1.toList) (Tcp.turn network first tcp).2 := by
  -- Each turn is one of the operations, for which the ledger was shown to be kept.
  cases first with
  | accept now => simpa [Tcp.turn, admittedIn] using (ledger.accept network.logged now few).1
  | attend now id => simpa [Tcp.turn, admittedIn] using ledger.attend network.logged now id
  | next => exact ledger.nextEvent network.logged
  | send id packet =>
    have kept : Ledger given handed (send network.logged id packet tcp).2 :=
      ledger.congr (fixed_send fixed_nextId ..) (send_keeps ..).2 (send_keeps ..).1
    simpa [Tcp.turn, admittedIn] using kept
  | disconnect id => simpa [Tcp.turn, admittedIn] using ledger.disconnect network.logged id
  | world change =>
    have kept : Ledger given handed
        { tcp with network := (change tcp.network.1, tcp.network.2) } := ledger.congr rfl rfl rfl
    simpa [Tcp.turn, admittedIn] using kept

/-- A ledger is kept by many turns, and takes a number for each who is admitted. -/
theorem Ledger.run {network : Network ν} {given : Nat} {handed : List Event}
    {tcp : Tcp (ν × List Reading)} (ledger : Ledger given handed tcp) (turns : List (Turn ν))
    (few : given + (admitted network turns tcp).length < 2 ^ 64) :
    Ledger (given + (admitted network turns tcp).length)
      (handed ++ (Tcp.run network turns tcp).1) (Tcp.run network turns tcp).2 := by
  -- The bound is on all turns together, so it leaves enough numbers for each of them.
  induction turns generalizing given handed tcp with
  | nil => simpa [admitted, Tcp.run] using ledger
  | cons first turns ih =>
    rw [admitted, List.length_append] at few ⊢
    have later := ih (ledger.turn network first (by omega)) (by omega)
    rwa [Nat.add_assoc, List.append_assoc] at later

/-- Whoever is served after a turn was so before and was not disconnected, or is admitted in it. -/
theorem served_turn {network : Network ν} {first : Turn ν} {tcp : Tcp (ν × List Reading)}
    {admission : Admission} (among : admission ∈ (turn network first tcp).2.served) :
    first ≠ .disconnect admission.id ∧ admission ∈ tcp.served ∨
      admission ∈ admittedIn network first tcp := by
  -- The cases are the turns, and in each the entry is traced back to where it was.
  cases first with
  | accept now =>
    obtain ⟨entry, member, rfl⟩ := List.mem_map.mp among
    rcases (admits_accept network.logged now tcp).entered entry member with old | ⟨new, _⟩
    · exact .inl ⟨by simp, List.mem_map_of_mem old⟩
    · exact .inr new
  | attend now id =>
    refine .inl ⟨by simp, ?_⟩
    obtain ⟨entry, member, rfl⟩ := List.mem_map.mp among
    -- Reading a connection changes neither its socket nor its peer.
    rcases mem_of_mem_attend member with old | ⟨connection, known, rfl⟩
    · exact List.mem_map_of_mem old
    · exact List.mem_map.mpr ⟨_, Connections.mem_of_get? known, rfl⟩
  | next =>
    refine .inl ⟨by simp, ?_⟩
    rw [turn, nextEvent] at among
    -- Handing out an end removes an entry, and everything else keeps them all.
    split at among
    · exact among
    · exact (of_mem_served_erase (connections_close ..) among).1
    · exact among
  -- Sending leaves the entries alone.
  | send id packet =>
    refine .inl ⟨by simp, ?_⟩
    rwa [turn, served, (send_keeps ..).2] at among
  | disconnect id =>
    -- An entry that is left after a disconnect is not that of the connection.
    obtain ⟨old, apart⟩ := of_mem_served_erase (connections_disconnect ..) among
    exact .inl ⟨by simpa using Ne.symm apart, old⟩
  | world change => exact .inl ⟨by simp, among⟩

/-- Whoever is served after turns was so before and was never disconnected, or was admitted in one
of the turns and not disconnected since. -/
theorem origin_of_served {network : Network ν} {turns : List (Turn ν)}
    {tcp : Tcp (ν × List Reading)} {admission : Admission}
    (among : admission ∈ (run network turns tcp).2.served) :
    .disconnect admission.id ∉ turns ∧ admission ∈ tcp.served ∨
      ∃ before now later, turns = before ++ .accept now :: later ∧
        admission ∈ admittedBy network.logged now (run network before tcp).2 ∧
        .disconnect admission.id ∉ later := by
  -- The induction is on the turns from the first one on, so what the later ones start with is
  -- what the first one leaves.
  induction turns generalizing tcp with
  | nil => exact .inl ⟨by simp, among⟩
  | cons first turns ih =>
    -- The origin may lie behind the first turn, in it, or before all of them.
    rcases ih among with ⟨spared, old⟩ | ⟨before, now, later, rfl, new, spared⟩
    · rcases served_turn old with ⟨other, older⟩ | new
      · exact .inl ⟨by simpa using ⟨Ne.symm other, spared⟩, older⟩
      · -- Nobody is admitted but by accepting.
        cases first with
        | accept now => exact .inr ⟨[], now, turns, rfl, new, spared⟩
        | _ => cases new
    · exact .inr ⟨first :: before, now, later, rfl, new, spared⟩

/-- A number is on as many reports of new connections as it was given out. -/
theorem count_connected (id : ConnectionId) (events : List Event) :
    events.count (.connected id) = (events.filterMap Event.greeted?).count id := by
  -- Only a report of a new connection counts on either side.
  induction events with
  | nil => rfl
  | cons event events ih =>
    cases event <;> simp [Event.greeted?, List.filterMap_cons, List.count_cons, ih]

/-- A ledger has each number on one report of a new connection, at most. -/
theorem Ledger.count_connected_le_one {given : Nat} {handed : List Event} {tcp : Tcp ν}
    (ledger : Ledger given handed tcp) (id : ConnectionId) :
    (handed ++ tcp.events).count (.connected id) ≤ 1 := by
  rw [count_connected]
  -- The numbers rise from one report to the next.
  refine List.nodup_iff_count_le_one.mp (ledger.rising.imp ?_) id
  rintro earlier later rising rfl
  exact UInt64.lt_irrefl _ rising

/-- The peer is done or broke the framing, as far as was read. -/
def Departed (readings : List Reading) : Prop :=
  readings.any Reading.isLast = true ∨
    (Frame.split (readings.flatMap Reading.bytes)).invalid.isSome = true

/-- A peer was admitted in the course of turns, and nothing has ended its connection since: the
peer was not seen to be done and keeps to the framing, it was not reported as silent for too long,
and the caller did not close the connection. -/
def Serves (network : Network ν) (turns : List (Turn ν)) (start : Tcp (ν × List Reading))
    (admission : Admission) : Prop :=
  ∃ before now later, turns = before ++ .accept now :: later ∧
    let here := (run network before start).2
    let after := here.accept network.logged now
    admission ∈ admittedBy network.logged now here ∧
      .disconnect admission.id ∉ later ∧
      ¬ Departed (heard network admission.id later after) ∧
      .timedOut admission.id ∉ reports network admission.id later after

section Serving

variable {network : Network ν} {given : Nat} {handed : List Event} {tcp : Tcp (ν × List Reading)}

/-- From its admission on, a connection that the caller does not close goes as far as its readings
take it. -/
theorem reported_of_admitted (ledger : Ledger given handed tcp) {now : Instant}
    {later : List (Turn ν)}
    (few : given + (admitted network (.accept now :: later) tcp).length < 2 ^ 64)
    {admission : Admission} (among : admission ∈ admittedBy network.logged now tcp)
    (spared : .disconnect admission.id ∉ later) :
    Reported admission.id (run network later (tcp.accept network.logged now)).2
      (heard network admission.id later (tcp.accept network.logged now))
      (reports network admission.id later (tcp.accept network.logged now)) := by
  -- The first turn admits, and the others start from where it leaves off.
  rw [admitted, List.length_append] at few
  obtain ⟨accepted, fresh⟩ := ledger.accept network.logged now
    (Nat.lt_of_le_of_lt (Nat.add_le_add_left (Nat.le_add_right _ _) _) few)
  obtain ⟨⟨connection, known, empty, reading⟩, queued⟩ := fresh admission among
  -- Nothing was read yet, and the empty stream has no frame.
  have start : Reported admission.id (tcp.accept network.logged now) []
      ([] ++ eventsOf admission.id (tcp.accept network.logged now).events) := by
    rw [queued]
    exact .going [] connection known reading (by rw [empty]; exact .short [] (by decide)) rfl
  -- Numbers rise, so this one is reported once.
  have once := (accepted.run later (by rw [Nat.add_assoc]; exact few)).count_connected_le_one
    admission.id
  rw [List.append_assoc] at once
  have part : (reports network admission.id later (tcp.accept network.logged now)).Sublist _ :=
    List.filter_sublist.trans (List.sublist_append_right handed _)
  simpa using start.run later spared (by simpa using Nat.le_trans (part.count_le _) once)

/-- Whoever is served was admitted, if nobody was served at the start. -/
theorem admitted_of_served {turns : List (Turn ν)} (nobody : tcp.served = [])
    {admission : Admission} (among : admission ∈ (run network turns tcp).2.served) :
    admission ∈ admitted network turns tcp := by
  -- The entry has its origin in one of the turns, since there was none before them.
  rcases origin_of_served among with ⟨_, old⟩ | ⟨before, now, later, rfl, new, _⟩
  · simp [nobody] at old
  · rw [admitted_append]
    exact List.mem_append_right _ (List.mem_append_left _ new)

/-- No two of those who were admitted have the same number. -/
theorem eq_of_id_eq {turns : List (Turn ν)}
    (few : (admitted network turns tcp).length ≤ 2 ^ 64) {first last : Admission}
    (one : first ∈ admitted network turns tcp) (other : last ∈ admitted network turns tcp)
    (same : first.id = last.id) : first = last := by
  -- The numbers stand in a row that is too short to come round.
  have distinct := (numbered_run network turns tcp).1 ▸ nodup_numbers tcp.nextId few
  exact List.inj_on_of_nodup_map distinct one other (congrArg ConnectionId.number same)

/-- When the queue is empty, those are served who were admitted and whose connections have not
ended since. -/
theorem served_iff (ledger : Ledger 0 [] tcp) (slots : Slots tcp) (nobody : tcp.served = [])
    {turns : List (Turn ν)} (few : (admitted network turns tcp).length < 2 ^ 64)
    (empty : (run network turns tcp).2.events = []) (admission : Admission) :
    admission ∈ (run network turns tcp).2.served ↔ Serves network turns tcp admission := by
  have kept := run_keeps network (fun first _ => Slots.turn network first) turns slots
  -- What is known of the connection follows from its admission, wherever that is.
  have reached {before later : List (Turn ν)} {now : Instant}
      (whole : turns = before ++ .accept now :: later)
      (new : admission ∈ admittedBy network.logged now (run network before tcp).2)
      (spared : .disconnect admission.id ∉ later) :
      Reported admission.id (run network turns tcp).2
        (heard network admission.id later
          ((run network before tcp).2.accept network.logged now))
        (reports network admission.id later
          ((run network before tcp).2.accept network.logged now)) := by
    subst whole
    rw [admitted_append, List.length_append] at few
    rw [run_append]
    refine reported_of_admitted (ledger.run before (by omega)) ?_ new spared
    omega
  -- An entry tells where its admission was, and an admission tells whether there is an entry.
  constructor
  · intro among
    obtain ⟨connection, member⟩ := exists_of_mem_served among
    have known := Connections.get?_of_mem kept.distinct member
    rcases origin_of_served among with ⟨_, old⟩ | ⟨before, now, later, whole, new, spared⟩
    · simp [nobody] at old
    refine ⟨before, now, later, whole, new, spared, ?_⟩
    have reported := reached whole new spared
    generalize heard network admission.id later _ = readings at reported ⊢
    generalize reports network admission.id later _ = events at reported ⊢
    cases reported with
    | going packets connection known reading parse more =>
      exact ⟨by simp [Departed, more, parse.split_eq], by simp⟩
    | closed packets rest invalid unread =>
      -- Its end would still be queued.
      have reading := kept.reading empty _ member
      rw [unread connection known] at reading
      cases reading
    | timedOut packets rest gone =>
      rw [known] at gone
      cases gone
  · rintro ⟨before, now, later, whole, new, spared, present, lively⟩
    have reported := reached whole new spared
    generalize heard network admission.id later _ = readings at reported present
    generalize reports network admission.id later _ = events at reported lively
    cases reported with
    | going packets connection known =>
      have member := List.mem_map_of_mem (f := Admission.of) (Connections.mem_of_get? known)
      -- Nobody else was admitted under this number.
      have here : admission ∈ admitted network turns tcp := by
        rw [whole, admitted_append]
        exact List.mem_append_right _ (List.mem_append_left _ new)
      rwa [eq_of_id_eq (Nat.le_of_lt few) here (admitted_of_served nobody member) rfl]
    -- The stream has ended by what was read, which is what is ruled out.
    | closed packets rest invalid unread parse finished =>
      refine absurd ?_ present
      rw [Departed, parse.split_eq]
      exact finished.symm
    -- The silence was reported, which is ruled out, too.
    | timedOut packets rest => simp at lively

end Serving

/-- The connection that the caller closes in a turn. -/
def Turn.closes? : Turn ν → Option ConnectionId
  | .disconnect id => some id
  | _ => none

/-- The connection that the caller asks to close. -/
def Ask.closes? : Ask ν → Option ConnectionId
  | .disconnect id => some id
  | _ => none

/-- Whatever is asked is done in turns, and in no turn is a connection closed for the caller unless
that is asked. -/
theorem exists_turns (network : Network ν) (asks : List (Ask ν)) (tcp : Tcp (ν × List Reading)) :
    ∃ turns, run network turns tcp = respondAll network.logged (asks.map Ask.beside) tcp ∧
      turns.filterMap Turn.closes? = asks.filterMap Ask.closes? := by
  have one (ask : Ask ν) (tcp : Tcp (ν × List Reading)) :
      ∃ turns, run network turns tcp = respond network.logged ask.beside tcp ∧
        turns.filterMap Turn.closes? = ask.closes?.toList := by
    -- The cases are what can be asked, of which only a poll takes more than one turn.
    cases ask with
    | poll wait =>
      obtain ⟨turns, spared, ran⟩ := takes_poll network wait tcp
      refine ⟨turns, ran, List.filterMap_eq_nil_iff.mpr fun first among => ?_⟩
      cases first with
      | disconnect id => exact absurd among (spared id)
      | _ => rfl
    | send id packet => exact ⟨[.send id packet], rfl, rfl⟩
    | disconnect id => exact ⟨[.disconnect id], rfl, rfl⟩
    | world change => exact ⟨[.world change], rfl, rfl⟩
  -- What is asked later is done in turns behind those of the first.
  induction asks generalizing tcp with
  | nil => exact ⟨[], rfl, rfl⟩
  | cons ask asks ih =>
    obtain ⟨turns, ran, closing⟩ := one ask tcp
    obtain ⟨later, went, closings⟩ := ih (respond network.logged ask.beside tcp).2
    refine ⟨turns ++ later, ?_, ?_⟩
    · rw [run_append, ran, went]
      rfl
    · rw [List.filterMap_append, closing, closings, List.filterMap_cons]
      cases ask.closes? <;> rfl

/-- Whatever peers and the caller do, a transport has no more connections than it may have, gives
a number to whoever it admits and to nobody else, and keeps no place for a connection that has
ended.

Nothing is assumed of the machine. A number takes 64 bits, so it tells connections apart for as
many peers. -/
theorem places_of_turns (network : Network ν) (turns : List (Turn ν)) (state : ν)
    (maxClients : UInt64) (idleTimeout : Duration) (patience : Nat) :
    let start : Tcp (ν × List Reading) :=
      { network := (state, []), maxClients, idleTimeout, patience }
    let tcp := (run network turns start).2
    tcp.connections.size ≤ maxClients.toNat ∧ tcp.connections.keys.Nodup ∧
    -- Whoever is admitted is reported and gets the next number.
    ((queued network turns start).filterMap Event.greeted? =
        (admitted network turns start).map (·.id) ∧
      ((run network turns start).1 ++ tcp.events).Sublist (queued network turns start) ∧
      (admitted network turns start).map (·.id.number) =
        numbers 1 (admitted network turns start).length ∧
      tcp.nextId = 1 + UInt64.ofNat (admitted network turns start).length) ∧
    -- Whoever finds the table full, or comes on a socket that cannot be prepared, is turned away,
    -- and nothing is left of the visit.
    (∀ (met : Tcp (ν × List Reading)) now arrival,
      met.maxClients.toNat ≤ met.connections.size ∨ arrival.fault.isSome →
      let after := takeIn network.logged now met arrival
      after.connections = met.connections ∧ after.events = met.events ∧
        after.nextId = met.nextId) ∧
    (tcp.events = [] →
      (∀ entry ∈ tcp.connections.entries, entry.2.readClosed = false) ∧
      ((admitted network turns start).length < 2 ^ 64 →
        ∀ admission, admission ∈ tcp.served ↔ Serves network turns start admission)) ∧
    -- Everything that is asked of a transport is done in such turns.
    ∀ asks : List (Ask ν), ∃ turns : List (Turn ν),
      respondAll network asks { network := state, maxClients, idleTimeout, patience } =
        Prod.map id bare (run network turns start) ∧
      turns.filterMap Turn.closes? = asks.filterMap Ask.closes? := by
  intro start tcp
  -- The table starts empty, and every turn keeps it within its limits.
  have slots : Slots start := .start (state, []) maxClients idleTimeout patience
  have kept : Slots tcp := run_keeps network (fun first _ => Slots.turn network first) turns slots
  obtain ⟨row, next⟩ := numbered_run network turns start
  have limit : tcp.maxClients = maxClients :=
    run_keeps network (fun first tcp limit => (maxClients_turn network first tcp).trans limit)
      turns rfl
  refine ⟨limit ▸ kept.few, kept.distinct, ⟨greeted_queued network turns start, ?_, row, next⟩,
    ?_, fun empty => ⟨kept.reading empty, fun few => ?_⟩, fun asks => ?_⟩
  -- What is handed out or left comes from what was queued.
  · exact run_sublist network turns start
  -- A refusal is decided before anything is entered, queued or numbered.
  · intro met now arrival unwelcome
    obtain ⟨notice, refused⟩ := exists_refusal?_iff.mpr unwelcome
    simp only [takeIn, refused]
    exact ⟨trivial, trivial, trivial⟩
  -- Those who are served are told by their admissions.
  · exact served_iff (ledger_start (state, []) maxClients idleTimeout patience) slots rfl few empty
  -- Asking is done in turns, of which the log of readings is left out.
  · obtain ⟨turns, ran, closing⟩ := exists_turns network asks start
    exact ⟨turns, ran ▸ bare_respondAll network.logged_mirrors asks start, closing⟩

/-- There is one place. The second client finds it taken, the first one leaves, and the third one
gets the place once the parting was handed out. -/
theorem places_of_three_clients :
    let peer : SocketAddress := { ip := .v4 ⟨127, 0, 0, 1⟩, port := 40000 }
    let wire : Wire :=
      { streams := [{ client := peer }, { client := peer }, { client := peer }], backlog := [0, 1] }
    let turns : List (Turn Wire) := [.accept ⟨0⟩, .next, .world fun wire => wire.clientDone 0,
      .attend ⟨0⟩ ⟨1⟩, .next, .world fun wire => { wire with backlog := [2] }, .accept ⟨0⟩, .next]
    let start : Tcp (Wire × List Reading) :=
      { network := (wire, []), maxClients := 1, idleTimeout := ⟨1000⟩, patience := 3 }
    (run Wire.network turns start).1 = [.connected ⟨1⟩, .disconnected ⟨1⟩, .connected ⟨2⟩] ∧
      (run Wire.network turns start).2.events = [] ∧
      (admitted Wire.network turns start).length < 2 ^ 64 ∧
      Serves Wire.network turns start ⟨⟨2⟩, 2, peer⟩ ∧
      ¬ Serves Wire.network turns start ⟨⟨1⟩, 0, peer⟩ := by
  intro peer wire turns start
  -- The run is computed, and the theorem says what it means for those who are served.
  have empty : (run Wire.network turns start).2.events = [] := by decide +kernel
  have few : (admitted Wire.network turns start).length < 2 ^ 64 := by decide +kernel
  have served : (run Wire.network turns start).2.served = [⟨⟨2⟩, 2, peer⟩] := by decide +kernel
  obtain ⟨_, _, _, _, places, _⟩ := places_of_turns Wire.network turns wire 1 ⟨1000⟩ 3
  have still (admission : Admission) :
      admission = ⟨⟨2⟩, 2, peer⟩ ↔ Serves Wire.network turns start admission := by
    rw [← (places empty).2 few admission, served, List.mem_singleton]
  refine ⟨by decide +kernel, empty, few, (still _).mp rfl, fun serves => ?_⟩
  cases (still _).mpr serves

end Tcp

end CallGate
