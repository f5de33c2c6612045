import CallGate.Proofs.Transport.Slots
import Mathlib.Data.List.Nodup

/-! Whom a transport admits, under which numbers, and what of them it keeps. -/

namespace CallGate

variable {ν : Type}

/-- A peer that was admitted, and the number that it was given. -/
structure Admission where
  id : ConnectionId
  socket : Socket
  peer : SocketAddress
  deriving Repr, DecidableEq

/-- Who has an entry. -/
def Admission.of (entry : ConnectionId × Connection) : Admission :=
  ⟨entry.1, entry.2.socket, entry.2.peer⟩

/-- Numbers in a row, as 64 bits count them. -/
def numbers (first : UInt64) (count : Nat) : List UInt64 :=
  (List.range count).map fun index => first + UInt64.ofNat index

/-- A row goes on where a row before it ends. -/
theorem numbers_add (first : UInt64) (count more : Nat) :
    numbers first (count + more) =
      numbers first count ++ numbers (first + UInt64.ofNat count) more := by
  -- The places behind the first ones are the same places counted from further up.
  simp [numbers, List.range_add, Function.comp_def, UInt64.ofNat_add, UInt64.add_assoc]

/-- No number comes twice, unless all of them have come. -/
theorem nodup_numbers (first : UInt64) {count : Nat} (few : count ≤ 2 ^ 64) :
    (numbers first count).Nodup := by
  -- Two places with the same number are the same place.
  refine List.Nodup.map_on (fun index member other among same => ?_) List.nodup_range
  rw [List.mem_range] at member among
  -- The places are too few for two of them to differ by all numbers there are.
  have counted := congrArg UInt64.toNat (UInt64.add_right_inj first |>.mp same)
  rwa [UInt64.toNat_ofNat_of_lt' (Nat.lt_of_lt_of_le member few),
    UInt64.toNat_ofNat_of_lt' (Nat.lt_of_lt_of_le among few)] at counted

namespace Tcp

/-- Whose connections have a place in the table. -/
def served (tcp : Tcp ν) : List Admission := tcp.connections.entries.map .of

/-- Whoever is served has an entry. -/
theorem exists_of_mem_served {tcp : Tcp ν} {admission : Admission}
    (among : admission ∈ tcp.served) :
    ∃ connection, (admission.id, connection) ∈ tcp.connections.entries := by
  -- Those who are served are listed from the entries.
  obtain ⟨⟨id, connection⟩, member, rfl⟩ := List.mem_map.mp among
  exact ⟨connection, member⟩

/-- A connection without an entry is not served, and the others were so before. -/
theorem of_mem_served_erase {tcp after : Tcp ν} {id : ConnectionId} {admission : Admission}
    (connections : after.connections = tcp.connections.erase id)
    (among : admission ∈ after.served) : admission ∈ tcp.served ∧ admission.id ≠ id := by
  -- An entry that is left after an erasure is an old one, and not the erased one.
  rw [served, connections] at among
  obtain ⟨entry, member, rfl⟩ := List.mem_map.mp among
  obtain ⟨old, apart⟩ := List.mem_filter.mp member
  exact ⟨List.mem_map_of_mem old, of_decide_eq_true apart⟩

/-- Who of the peers at the listener is admitted: whoever finds room in the table and comes on a
socket that can be prepared. -/
def admissions (network : Network ν) (now : Instant) : List Arrival → Tcp ν → List Admission
  | [], _ => []
  | arrival :: peers, tcp =>
    let later := admissions network now peers (takeIn network now tcp arrival)
    if tcp.connections.size < tcp.maxClients.toNat ∧ arrival.fault = none then
      ⟨⟨tcp.nextId⟩, arrival.socket, arrival.peer⟩ :: later
    else later

/-- Who is admitted when a transport accepts. -/
def admittedBy (network : Network ν) (now : Instant) (tcp : Tcp ν) : List Admission :=
  if tcp.accepting now then
    let (arrivals, state) := network.arrivals tcp.network
    admissions network now arrivals.peers { tcp with network := state, acceptPausedUntil := none }
  else []

/-- What is done when these peers are admitted and nobody else is. -/
structure Admits (tcp : Tcp ν) (admitted : List Admission) (after : Tcp ν) : Prop where
  limit : after.maxClients = tcp.maxClients
  queued : after.events = tcp.events ++ admitted.map fun admission => .connected admission.id
  next : after.nextId = tcp.nextId + UInt64.ofNat admitted.length
  numbered : admitted.map (·.id.number) = numbers tcp.nextId admitted.length
  entered (entry : ConnectionId × Connection) (member : entry ∈ after.connections.entries) :
    entry ∈ tcp.connections.entries ∨ .of entry ∈ admitted ∧ entry.2.inbox = []
  untouched (id : ConnectionId) (apart : ∀ admission ∈ admitted, admission.id ≠ id) :
    after.connections.get? id = tcp.connections.get? id

namespace Admits

variable {tcp middle after : Tcp ν} {admitted others : List Admission}

/-- Nobody is admitted, and nothing becomes of the entries, the queue and the numbers. -/
theorem nobody (limit : after.maxClients = tcp.maxClients)
    (connections : after.connections = tcp.connections)
    (events : after.events = tcp.events) (nextId : after.nextId = tcp.nextId) :
    Admits tcp [] after where
  -- Each part says that something is as before, which is among the hypotheses.
  limit := limit
  queued := by simp [events]
  next := by simp [nextId]
  numbered := rfl
  entered _ member := .inl (connections ▸ member)
  untouched id _ := by rw [connections]

/-- Only the entries, the queue and the numbers matter. -/
theorem congr (admits : Admits tcp admitted middle) (limit : after.maxClients = middle.maxClients)
    (connections : after.connections = middle.connections)
    (events : after.events = middle.events) (nextId : after.nextId = middle.nextId) :
    Admits tcp admitted after where
  -- All that the admissions speak of is carried over, part by part.
  limit := limit.trans admits.limit
  queued := events.trans admits.queued
  next := nextId.trans admits.next
  numbered := admits.numbered
  entered := by rw [connections]; exact admits.entered
  untouched := by rw [connections]; exact admits.untouched

/-- Some peers are admitted behind others. -/
theorem trans (front : Admits tcp admitted middle) (back : Admits middle others after) :
    Admits tcp (admitted ++ others) after where
  -- Limit, queue and numbers of the whole are those of its parts, one behind the other.
  limit := back.limit.trans front.limit
  queued := by rw [back.queued, front.queued, List.map_append, List.append_assoc]
  next := by
    rw [back.next, front.next, List.length_append, UInt64.ofNat_add, UInt64.add_assoc]
  numbered := by
    rw [List.map_append, front.numbered, back.numbered, front.next, List.length_append,
      numbers_add]
  entered entry member := by
    rcases back.entered entry member with old | ⟨new, empty⟩
    -- An entry is new by the later admissions, by the earlier ones, or not at all.
    · exact (front.entered entry old).imp_right (And.imp_left (List.mem_append_left _))
    · exact .inr ⟨List.mem_append_right _ new, empty⟩
  untouched id apart := by
    rw [back.untouched id fun admission among => apart admission (List.mem_append_right _ among),
      front.untouched id fun admission among => apart admission (List.mem_append_left _ among)]

/-- No two of the peers get the same number, unless there are more of them than numbers. -/
theorem distinct (admits : Admits tcp admitted after) (few : admitted.length ≤ 2 ^ 64) :
    (admitted.map (·.id)).Nodup := by
  -- Connections are told apart by their numbers, and these stand in a row.
  have numbered : ((admitted.map (·.id)).map ConnectionId.number).Nodup := by
    rw [List.map_map]
    exact admits.numbered ▸ nodup_numbers tcp.nextId few
  exact numbered.of_map

/-- Whoever was admitted just before stays so while others are. -/
theorem keeps (admits : Admits tcp others after) {id : ConnectionId} (admitted : Admitted tcp id)
    (apart : ∀ admission ∈ others, admission.id ≠ id) : Admitted after id where
  fresh := by rw [admits.untouched id apart]; exact admitted.fresh
  queued := by
    -- Nothing that is queued for the others is an event of this connection.
    rw [admits.queued, eventsOf_append, admitted.queued, eventsOf_of_ne, List.append_nil]
    intro event member
    obtain ⟨admission, among, rfl⟩ := List.mem_map.mp member
    exact apart admission among

end Admits

/-- Whoever is turned away leaves no entry, no event and no number behind. -/
theorem takeIn_of_refused (network : Network ν) (now : Instant) {tcp : Tcp ν} {arrival : Arrival}
    {notice : Notice} (refused : tcp.refusal? arrival = some notice) :
    Admits tcp [] (takeIn network now tcp arrival) := by
  -- The peer's socket is dropped with a notice, and all else is as it was.
  simp only [takeIn, refused]
  exact .nobody rfl rfl rfl rfl

/-- Everyone else is entered, reported and numbered. -/
theorem takeIn_of_welcome (network : Network ν) (now : Instant) {tcp : Tcp ν} {arrival : Arrival}
    (welcome : tcp.refusal? arrival = none) :
    Admits tcp [⟨⟨tcp.nextId⟩, arrival.socket, arrival.peer⟩]
      (takeIn network now tcp arrival) := by
  simp only [takeIn, welcome]
  -- The parts are read off the one entry, the one event and the one number.
  constructor
  case limit => rfl
  case queued => rfl
  case next => rfl
  case numbered => simp [numbers]
  case entered =>
    intro entry member
    -- The entry is the new one, with nothing in its inbox, or an old one.
    rcases Connections.mem_insert member with rfl | old
    · exact .inr ⟨List.mem_singleton_self _, rfl⟩
    · exact .inl old
  case untouched =>
    intro id apart
    -- Another connection is found where it was.
    exact (Connections.get?_insert ..).trans (if_neg (apart _ (List.mem_singleton_self _)))

/-- Of everyone who waits, the admitted ones and nobody else are entered. -/
theorem admits_takeIns (network : Network ν) (now : Instant)
    (peers : List Arrival) (tcp : Tcp ν) :
    Admits tcp (admissions network now peers tcp) (peers.foldl (takeIn network now) tcp) := by
  -- Whether there is room is asked anew for each peer, of the table that those before it left.
  induction peers generalizing tcp with
  | nil => exact .nobody rfl rfl rfl rfl
  | cons arrival peers ih =>
    have later := ih (takeIn network now tcp arrival)
    rw [List.foldl_cons, admissions]
    -- The first peer is turned away or admitted, and the others follow in either case.
    cases refused : tcp.refusal? arrival with
    | some notice =>
      rw [if_neg fun welcome => by simp [refusal?_eq_none_iff.mpr welcome] at refused]
      exact (takeIn_of_refused network now refused).trans later
    | none =>
      rw [if_pos (refusal?_eq_none_iff.mp refused)]
      exact (takeIn_of_welcome network now refused).trans later

/-- Accepting admits those who are let in, and nobody else. -/
theorem admits_accept (network : Network ν) (now : Instant) (tcp : Tcp ν) :
    Admits tcp (admittedBy network now tcp) (tcp.accept network now) := by
  -- While accepting pauses, nobody is asked for.
  by_cases accepting : tcp.accepting now
  · simp only [admittedBy, accept, accepting, if_true]
    have asked : Admits tcp [] { tcp with
        network := (network.arrivals tcp.network).2, acceptPausedUntil := none } :=
      .nobody rfl rfl rfl rfl
    have taken := asked.trans
      (admits_takeIns network now (network.arrivals tcp.network).1.peers _)
    -- A failing listener only pauses what comes later.
    split
    · exact taken
    · exact taken.congr rfl rfl rfl rfl
  · simp only [admittedBy, accept, accepting, Bool.false_eq_true, if_false]
    exact .nobody rfl rfl rfl rfl

namespace Ledger

variable {given : Nat} {handed : List Event} {tcp : Tcp ν} (network : Network ν) (now : Instant)

/-- Taking in everyone who waits takes a number for each who is admitted, and each of them has an
entry of its own then. -/
theorem takeIns (ledger : Ledger given handed tcp) (peers : List Arrival)
    (few : given + (admissions network now peers tcp).length < 2 ^ 64) :
    Ledger (given + (admissions network now peers tcp).length) handed
        (peers.foldl (Tcp.takeIn network now) tcp) ∧
      ∀ admission ∈ admissions network now peers tcp,
        Admitted (peers.foldl (Tcp.takeIn network now) tcp) admission.id := by
  -- The ledger that a peer leaves is the one that the next peer finds.
  induction peers generalizing given tcp with
  | nil => exact ⟨ledger, by simp [admissions]⟩
  | cons arrival peers ih =>
    have distinct := (admits_takeIns network now (arrival :: peers) tcp).distinct (by omega)
    rw [List.foldl_cons]
    cases refused : tcp.refusal? arrival with
    -- A peer that is turned away takes no number, so the count stays.
    | some notice =>
      have unwelcome : ¬ (tcp.connections.size < tcp.maxClients.toNat ∧ arrival.fault = none) :=
        fun welcome => by simp [refusal?_eq_none_iff.mpr welcome] at refused
      rw [admissions, if_neg unwelcome] at few ⊢
      exact ih (ledger.refuse network now arrival refused) few
    | none =>
      rw [admissions, if_pos (refusal?_eq_none_iff.mp refused)] at few distinct ⊢
      rw [List.length_cons] at few ⊢
      obtain ⟨kept, others⟩ := ih (ledger.enter network now arrival refused (by omega)) (by omega)
      refine ⟨by rwa [Nat.add_assoc, Nat.add_comm 1] at kept, fun admission among => ?_⟩
      rcases List.mem_cons.mp among with rfl | later
      · -- This peer was entered first, and no later one has its number.
        have taken := admitted_takeIn network now tcp arrival refused
          (ledger.unheard (by omega)).2.2.2
        refine (admits_takeIns network now peers _).keeps taken fun other later same => ?_
        exact (List.nodup_cons.mp distinct).1 (List.mem_map.mpr ⟨other, later, same⟩)
      · exact others admission later

/-- Accepting takes a number for each who is admitted, and each of them has an entry of its own. -/
theorem accept (ledger : Ledger given handed tcp)
    (few : given + (admittedBy network now tcp).length < 2 ^ 64) :
    Ledger (given + (admittedBy network now tcp).length) handed (tcp.accept network now) ∧
      ∀ admission ∈ admittedBy network now tcp,
        Admitted (tcp.accept network now) admission.id := by
  -- While accepting pauses, there is nobody to be admitted.
  by_cases accepting : tcp.accepting now
  · simp only [admittedBy, Tcp.accept, accepting, if_true] at few ⊢
    have asked : Ledger given handed { tcp with
        network := (network.arrivals tcp.network).2, acceptPausedUntil := none } :=
      ledger.congr rfl rfl rfl
    obtain ⟨kept, admitted⟩ := asked.takeIns network now _ few
    -- A failing listener only pauses what comes later.
    split
    · exact ⟨kept, admitted⟩
    · exact ⟨kept.congr rfl rfl rfl, fun admission among =>
        ⟨(admitted admission among).fresh, (admitted admission among).queued⟩⟩
  · simp only [admittedBy, Tcp.accept, accepting, Bool.false_eq_true, if_false] at few ⊢
    exact ⟨ledger, by simp⟩

end Ledger

end Tcp

end CallGate
