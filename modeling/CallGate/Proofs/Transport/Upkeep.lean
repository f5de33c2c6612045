import CallGate.Proofs.Transport.Gauge
import CallGate.Proofs.Transport.Ledger
import CallGate.Proofs.Transport.Mirror

/-! What a transport keeps up while it polls, as long as there are numbers to give out. -/

namespace CallGate

variable {ν : Type}

/-- The same machine, counting everyone who was accepted next to its own state. -/
def Network.counted (network : Network ν) : Network (ν × Nat) where
  __ := network.beside _
  arrivals state :=
    let (arrivals, inner) := network.arrivals state.1
    (arrivals, inner, state.2 + arrivals.peers.length)

/-- Counting changes nothing in what the machine does. -/
theorem Network.counted_mirrors (network : Network ν) : network.counted.Mirrors network where
  -- The count stands beside the machine, which never sees it.
  now _ := rfl
  arrivals _ := rfl
  read _ _ := rfl
  write _ _ _ := rfl
  shutdown _ _ := rfl
  wait _ _ _ _ := rfl

/-- Nobody is counted for what a socket does. -/
theorem Network.counted_leaves (network : Network ν) : network.counted.Leaves Prod.snd where
  -- A socket is read, written and shut down without the listener.
  read _ _ := rfl
  write _ _ _ := rfl
  shutdown _ _ := rfl

namespace Tcp

section Counting

/-- Everyone who is accepted is counted. -/
theorem count_accept (network : Network ν) (now : Instant) (tcp : Tcp (ν × Nat)) :
    (tcp.accept network.counted now).network.2 = tcp.network.2 +
      if tcp.accepting now then (network.counted.arrivals tcp.network).1.peers.length else 0 := by
  -- The listener counts those it hands over, and nothing else does.
  rw [measure_accept network.counted_leaves]
  split <;> rfl

/-- Handing out an event accepts nobody. -/
theorem count_nextEvent (network : Network ν) (tcp : Tcp (ν × Nat)) :
    (tcp.nextEvent network.counted).2.network.2 = tcp.network.2 :=
  measure_nextEvent network.counted_leaves tcp

/-- Closing a connection for the caller accepts nobody. -/
theorem count_disconnect (network : Network ν) (id : ConnectionId) (tcp : Tcp (ν × Nat)) :
    (disconnect network.counted id tcp).network.2 = tcp.network.2 :=
  measure_disconnect network.counted_leaves id tcp

/-- Sending accepts nobody. -/
theorem count_send (network : Network ν) (id : ConnectionId) (packet : Bytes)
    (tcp : Tcp (ν × Nat)) : (send network.counted id packet tcp).2.network.2 = tcp.network.2 :=
  measure_send network.counted_leaves id packet tcp

end Counting

/-- What is to be kept up about a transport, when so many numbers were given out and these events
were handed out. It may be stricter during a pump, which happens at one instant. -/
abbrev Books (ν : Type) :=
  (pump : Option Instant) → (given : Nat) → (handed : List Event) → Tcp ν → Prop

/-- Whatever a poll does before it hands out an event keeps the books. -/
structure Upkeep (network : Network ν) (books : Books ν) : Prop where
  /-- The books are about numbers, entries and the queue, and how long silence may last. -/
  congr {pump : Option Instant} {given : Nat} {handed : List Event} {tcp after : Tcp ν}
    (kept : books pump given handed tcp) (next : after.nextId = tcp.nextId)
    (connections : after.connections = tcp.connections) (events : after.events = tcp.events)
    (idleTimeout : after.idleTimeout = tcp.idleTimeout) : books pump given handed after
  /-- A pump starts with an empty queue. -/
  start {now : Instant} {given : Nat} {handed : List Event} {tcp : Tcp ν}
    (kept : books none given handed tcp) (empty : tcp.events = []) :
    books (some now) given handed tcp
  takeIn {now : Instant} {given : Nat} {handed : List Event} {tcp : Tcp ν}
    (kept : books (some now) given handed tcp) (arrival : Arrival)
    (few : given + 1 < 2 ^ 64) :
    ∃ later, later ≤ given + 1 ∧ books (some now) later handed (takeIn network now tcp arrival)
  attend {now : Instant} {given : Nat} {handed : List Event} {tcp : Tcp ν}
    (kept : books (some now) given handed tcp) (id : ConnectionId) :
    books (some now) given handed (attend network now tcp id)
  stop {now : Instant} {given : Nat} {handed : List Event} {tcp : Tcp ν}
    (kept : books (some now) given handed tcp) : books none given handed tcp

namespace Upkeep

variable {network : Network ν} {books : Books ν} {now : Instant} {given : Nat}
  {handed : List Event} {tcp : Tcp ν}

/-- Everyone who waits is taken in, under as many numbers at most. -/
theorem accept (upkeep : Upkeep network books) (kept : books (some now) given handed tcp)
    (few : tcp.accepting now = true →
      given + (network.arrivals tcp.network).1.peers.length < 2 ^ 64) :
    ∃ later, later ≤ given + (if tcp.accepting now then
        (network.arrivals tcp.network).1.peers.length else 0) ∧
      books (some now) later handed (tcp.accept network now) := by
  -- The induction is on the peers, and each takes one number at most.
  have all (peers : List Arrival) {given : Nat} {tcp : Tcp ν}
      (kept : books (some now) given handed tcp) (few : given + peers.length < 2 ^ 64) :
      ∃ later, later ≤ given + peers.length ∧
        books (some now) later handed (peers.foldl (Tcp.takeIn network now) tcp) := by
    induction peers generalizing given tcp with
    | nil => exact ⟨given, Nat.le_refl _, kept⟩
    | cons peer peers ih =>
      rw [List.length_cons] at few ⊢
      obtain ⟨next, bound, taken⟩ := upkeep.takeIn kept peer (by omega)
      obtain ⟨later, most, rest⟩ := ih taken (by omega)
      exact ⟨later, by omega, rest⟩
  by_cases accepting : tcp.accepting now
  · rw [if_pos accepting]
    have start : books (some now) given handed { tcp with
        network := (network.arrivals tcp.network).2, acceptPausedUntil := none } :=
      upkeep.congr kept rfl rfl rfl rfl
    obtain ⟨later, most, taken⟩ := all _ start (few accepting)
    refine ⟨later, most, ?_⟩
    -- A failing listener only pauses what comes later.
    simp only [Tcp.accept, accepting, if_true]
    split
    · exact taken
    · exact upkeep.congr taken rfl rfl rfl rfl
  -- While accepting pauses, nobody is taken in.
  · refine ⟨given, Nat.le_add_right .., ?_⟩
    simp only [Tcp.accept, accepting, Bool.false_eq_true, if_false]
    exact kept

/-- Connections are read one after the other. -/
theorem attends (upkeep : Upkeep network books) (kept : books (some now) given handed tcp)
    (ids : List ConnectionId) :
    books (some now) given handed (ids.foldl (Tcp.attend network now) tcp) := by
  -- The books are kept from one connection to the next.
  induction ids generalizing tcp with
  | nil => exact kept
  | cons id ids ih => exact ih (upkeep.attend kept id)

/-- Sending moves nothing but the machine. -/
theorem send (upkeep : Upkeep network books) {pump : Option Instant}
    (kept : books pump given handed tcp) (id : ConnectionId) (packet : Bytes) :
    books pump given handed (Tcp.send network id packet tcp).2 := by
  -- A packet that cannot be framed, or has no connection, moves nothing at all.
  unfold Tcp.send
  split
  · exact kept
  · split
    · exact kept
    · split <;> exact upkeep.congr kept rfl rfl rfl rfl

end Upkeep

/-- A transport goes on, hands out events, and keeps its books, as long as not too many are
accepted. -/
structure Follows (books : Books (ν × Nat)) (tcp : Tcp (ν × Nat)) (out : List Event)
    (after : Tcp (ν × Nat)) : Prop where
  counted : tcp.network.2 ≤ after.network.2
  kept {handed : List Event} {given : Nat} (few : after.network.2 < 2 ^ 64)
    (within : given ≤ tcp.network.2) (kept : books none given handed tcp) :
    ∃ later, later ≤ after.network.2 ∧ books none later (handed ++ out) after

section Following

variable {network : Network ν} {books : Books (ν × Nat)} {tcp middle after : Tcp (ν × Nat)}
  {first last : List Event}

namespace Follows

/-- Nobody is accepted, and no more numbers are given out. -/
theorem still (out : List Event) (count : after.network.2 = tcp.network.2)
    (keeps : ∀ given handed, books none given handed tcp →
      books none given (handed ++ out) after) : Follows books tcp out after where
  counted := Nat.le_of_eq count.symm
  -- The number of those accepted is the same, so what was within it still is.
  kept _ within kept := ⟨_, by rw [count]; exact within, keeps _ _ kept⟩

/-- Nothing is handed out, either. -/
theorem quiet (count : after.network.2 = tcp.network.2)
    (keeps : ∀ given handed, books none given handed tcp → books none given handed after) :
    Follows books tcp [] after :=
  .still [] count fun given handed kept => by
    -- Handing out nothing is handing out the empty list.
    rw [List.append_nil]
    exact keeps given handed kept

/-- Where nothing happens, books are kept. -/
theorem refl (books : Books (ν × Nat)) (tcp : Tcp (ν × Nat)) : Follows books tcp [] tcp :=
  .quiet rfl fun _ _ kept => kept

/-- Books that are kept through one thing and then through another are kept through both. -/
theorem trans (front : Follows books tcp first middle) (back : Follows books middle last after) :
    Follows books tcp (first ++ last) after where
  counted := Nat.le_trans front.counted back.counted
  kept few within kept := by
    -- No fewer are accepted in the end than in the middle, so the numbers last up to the middle.
    obtain ⟨next, bound, reached⟩ := front.kept (Nat.lt_of_le_of_lt back.counted few) within kept
    rw [← List.append_assoc]
    exact back.kept few bound reached

end Follows

namespace Upkeep

variable (upkeep : Upkeep network.counted books)

include upkeep

/-- The machine moves on, and nobody is accepted meanwhile. -/
theorem follows_world (tcp : Tcp (ν × Nat)) {state : ν × Nat} (count : state.2 = tcp.network.2) :
    Follows books tcp [] { tcp with network := state } :=
  .quiet count fun _ _ kept => upkeep.congr kept rfl rfl rfl rfl

/-- A pump keeps the books if nothing is queued, and counts whom it accepts. -/
theorem follows_pump (empty : tcp.events = []) :
    Follows books tcp [] (tcp.pump network.counted) := by
  have count := count_accept network (tcp.clock network.counted).1 (tcp.clock network.counted).2
  -- Reading accepts nobody, so the count is that of the accepting.
  have counted : (tcp.pump network.counted).network.2 = _ :=
    (measure_attends network.counted_leaves ..).trans count
  constructor
  case counted =>
    rw [counted]
    exact Nat.le_add_right ..
  case kept =>
    intro handed given few within kept
    rw [counted] at few ⊢
    -- Reading the clock starts the pump, and accepting and reading happen within it.
    have clocked : books none given handed (tcp.clock network.counted).2 :=
      upkeep.congr kept rfl rfl rfl rfl
    have started : books (some (tcp.clock network.counted).1) given handed
        (tcp.clock network.counted).2 := upkeep.start clocked empty
    have same : (tcp.clock network.counted).2.network.2 = tcp.network.2 := rfl
    obtain ⟨later, most, accepted⟩ := upkeep.accept started fun accepting => by
      rw [if_pos accepting] at few
      omega
    rw [List.append_nil]
    exact ⟨later, by omega, upkeep.stop (upkeep.attends accepted _)⟩

/-- The books are kept up to the last state of a poll, which hands out its event there. -/
theorem ended_poll (wait : Duration) (tcp : Tcp (ν × Nat)) :
    ∃ last, Follows books tcp [] last ∧
      Ended network.counted last (poll network.counted wait tcp).1
        (poll network.counted wait tcp).2 :=
  -- Clock, waiting and pumping keep the books, and a poll is made of these.
  Tcp.ended_poll network.counted (Follows books tcp [])
    (fun middle front => front.trans (upkeep.follows_world middle rfl))
    (fun middle _ front => front.trans (upkeep.follows_world middle rfl))
    (fun _ empty front => front.trans (upkeep.follows_pump empty)) wait (.refl books tcp)

end Upkeep

end Following

end Tcp

end CallGate
