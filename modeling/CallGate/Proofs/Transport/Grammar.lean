import CallGate.Proofs.Transport.Upkeep

/-! What is handed out of each connection: its number, then packets, then one ending. -/

namespace CallGate

variable {ν : Type}

namespace Tcp

/-- One thing that a caller asks of a transport, or that happens to it meanwhile. -/
inductive Ask (ν : Type) where
  | poll (wait : Duration)
  | send (id : ConnectionId) (packet : Bytes)
  | disconnect (id : ConnectionId)
  /-- Anything happens on the machine: peers connect, write and leave, and time passes. -/
  | world (change : ν → ν)

/-- The same is asked while something is kept beside the state of the machine. -/
def Ask.beside {κ : Type} : Ask ν → Ask (ν × κ)
  | poll wait => .poll wait
  | send id packet => .send id packet
  | disconnect id => .disconnect id
  | world change => .world (Prod.map change id)

/-- What the transport hands out and leaves when it is asked. -/
def respond (network : Network ν) (ask : Ask ν) (tcp : Tcp ν) : List Event × Tcp ν :=
  match ask with
  | .poll wait =>
    let (outcome, tcp) := poll network wait tcp
    (handedOut outcome, tcp)
  | .send id packet => ([], (send network id packet tcp).2)
  | .disconnect id => ([], disconnect network id tcp)
  | .world change => ([], { tcp with network := change tcp.network })

/-- What it hands out and leaves when it is asked one thing after the other. -/
def respondAll (network : Network ν) : List (Ask ν) → Tcp ν → List Event × Tcp ν
  | [], tcp => ([], tcp)
  | ask :: asks, tcp =>
    let (events, tcp) := respond network ask tcp
    let (later, tcp) := respondAll network asks tcp
    (events ++ later, tcp)

/-- Asking some things after others. -/
theorem respondAll_append (network : Network ν) (first last : List (Ask ν)) (tcp : Tcp ν) :
    respondAll network (first ++ last) tcp =
      let (early, tcp) := respondAll network first tcp
      let (later, tcp) := respondAll network last tcp
      (early ++ later, tcp) := by
  -- The things are asked one by one.
  induction first generalizing tcp with
  | nil => rfl
  | cons ask asks ih => simp [respondAll, ih]

/-- How many peers are accepted meanwhile, those included that there is no room for. -/
def accepted (network : Network ν) (asks : List (Ask ν)) (tcp : Tcp ν) : Nat :=
  (respondAll network.counted (asks.map Ask.beside) (tcp.beside 0)).2.network.2

section Asking

variable {κ : Type} {wider : Network (ν × κ)} {network : Network ν}

/-- Asking one thing gives the same answer whatever is kept beside the state. -/
theorem bare_respond (mirrors : wider.Mirrors network) (ask : Ask ν) (tcp : Tcp (ν × κ)) :
    respond network ask tcp.bare = Prod.map id bare (respond wider ask.beside tcp) := by
  -- Each thing that can be asked was shown to do so.
  cases ask with
  | poll wait =>
    simp only [respond, Ask.beside, bare_poll mirrors]
    rfl
  | send id packet =>
    simp only [respond, Ask.beside, bare_send mirrors]
    rfl
  | disconnect id =>
    simp only [respond, Ask.beside, ← bare_disconnect mirrors]
    rfl
  | world change => rfl

/-- Whatever is kept beside the state, the same is handed out. -/
theorem bare_respondAll (mirrors : wider.Mirrors network) (asks : List (Ask ν))
    (tcp : Tcp (ν × κ)) : respondAll network asks tcp.bare =
      Prod.map id bare (respondAll wider (asks.map Ask.beside) tcp) := by
  -- Each answer is the same, and so is the state that the next thing finds.
  induction asks generalizing tcp with
  | nil => rfl
  | cons ask asks ih =>
    simp only [respondAll, List.map_cons, bare_respond mirrors, Prod.map_fst, Prod.map_snd, ih]
    rfl

end Asking

section Following

variable {network : Network ν} {books : Books (ν × Nat)} (upkeep : Upkeep network.counted books)
  (taking : ∀ {given : Nat} {handed : List Event} {tcp : Tcp (ν × Nat)},
    books none given handed tcp →
      books none given (handed ++ (tcp.nextEvent network.counted).1.toList)
        (tcp.nextEvent network.counted).2)

include upkeep taking

/-- Books that an event taken off the queue keeps are kept by polls. -/
theorem Upkeep.follows_poll (wait : Duration) (tcp : Tcp (ν × Nat)) :
    Follows books tcp (handedOut (poll network.counted wait tcp).1)
      (poll network.counted wait tcp).2 := by
  -- A poll keeps the books up to its last state, from which it may hand out an event.
  obtain ⟨last, reached, ended⟩ := upkeep.ended_poll wait tcp
  generalize poll network.counted wait tcp = result at ended
  obtain ⟨outcome, after⟩ := result
  cases ended with
  -- The event is the first in the queue, and handing it out accepts nobody.
  | @event event after taken =>
    have handing : Follows books last _ _ :=
      .still _ (count_nextEvent network last) fun _ _ kept => taking kept
    rw [taken] at handing
    exact reached.trans handing
  | idle => exact reached
  | failed error => exact reached

variable (closing : ∀ (id : ConnectionId) {given : Nat} {handed : List Event}
  {tcp : Tcp (ν × Nat)}, books none given handed tcp →
    books none given handed (disconnect network.counted id tcp))

include closing

/-- If they are also kept when the caller closes a connection, they are kept whatever is asked. -/
theorem Upkeep.follows_respond (ask : Ask ν) (tcp : Tcp (ν × Nat)) :
    Follows books tcp (respond network.counted ask.beside tcp).1
      (respond network.counted ask.beside tcp).2 := by
  -- The cases are what can be asked. The machine may do what it likes, and still accepts nobody.
  cases ask with
  | poll wait => exact upkeep.follows_poll taking wait tcp
  | send id packet =>
    exact .quiet (count_send network id packet tcp) fun _ _ kept => upkeep.send kept id packet
  | disconnect id => exact .quiet (count_disconnect network id tcp) fun _ _ kept => closing id kept
  | world change => exact upkeep.follows_world tcp rfl

/-- Books that are kept whatever is asked are kept through everything that is asked. -/
theorem Upkeep.follows_respondAll (asks : List (Ask ν)) (tcp : Tcp (ν × Nat)) :
    Follows books tcp (respondAll network.counted (asks.map Ask.beside) tcp).1
      (respondAll network.counted (asks.map Ask.beside) tcp).2 := by
  -- What was handed out is collected answer by answer.
  induction asks generalizing tcp with
  | nil => exact .refl books tcp
  | cons ask asks ih => exact (upkeep.follows_respond taking closing ask tcp).trans (ih _)

end Following

/-- A ledger is kept up at all times. -/
theorem Ledger.upkeep (network : Network ν) : Upkeep network fun _ => Ledger where
  -- All of the upkeep was shown above, one operation at a time.
  congr ledger next connections events _ := ledger.congr next connections events
  start ledger _ := ledger
  takeIn ledger arrival few := ledger.takeIn network _ arrival few
  attend ledger id := ledger.attend network _ id
  stop ledger := ledger

/-- Whatever is asked, the ledger is kept. -/
theorem follows_respondAll (network : Network ν) (asks : List (Ask ν)) (tcp : Tcp (ν × Nat)) :
    Follows (fun _ => Ledger) tcp (respondAll network.counted (asks.map Ask.beside) tcp).1
      (respondAll network.counted (asks.map Ask.beside) tcp).2 :=
  -- The two conditions are about handing out an event and about closing for the caller.
  (Ledger.upkeep network.counted).follows_respondAll
    (fun ledger => ledger.nextEvent network.counted)
    (fun id _ _ _ ledger => ledger.disconnect network.counted id) asks tcp

/-- Whatever is asked of a transport and whatever the machine does, the events that are handed out
of each connection are its number, packets, and one ending, in this order and as far as they come,
and numbers are given out in rising order.

A number takes 64 bits, so they last for as many peers. -/
theorem grammar_of_asks (network : Network ν) (asks : List (Ask ν)) (state : ν)
    (maxClients : UInt64) (idleTimeout : Duration) (patience : Nat)
    (few : accepted network asks
      { network := state, maxClients, idleTimeout, patience } < 2 ^ 64) :
    let start : Tcp ν := { network := state, maxClients, idleTimeout, patience }
    let handed := (respondAll network asks start).1
    let tcp := (respondAll network asks start).2
    (∀ id, Begins id (eventsOf id handed)) ∧
      ((handed.filterMap Event.greeted?).Pairwise fun earlier later =>
        earlier.number < later.number) ∧
      -- The end of a connection is queued as its last event exactly if it is not read any more.
      (∀ id connection, tcp.connections.get? id = some connection →
        connection.readClosed = true →
        ∃ earlier, eventsOf id tcp.events = earlier ++ [.disconnected id] ∧
          .disconnected id ∉ earlier) ∧
      (∀ id, (∀ connection, tcp.connections.get? id = some connection →
          connection.readClosed = false) → .disconnected id ∉ tcp.events) ∧
      -- No number was given out that is still to come, unless they have just run out.
      ∀ id connection, tcp.connections.get? id = some connection →
        id.number < tcp.nextId ∨ tcp.nextId = 0 ∧ accepted network asks start + 1 = 2 ^ 64 := by
  intro start
  -- The ledger is empty at the start, and it is followed through all that is asked.
  obtain ⟨given, within, ledger⟩ := (follows_respondAll network asks (start.beside 0)).kept few
    (Nat.zero_le _) (ledger_start (state, 0) maxClients idleTimeout patience)
  -- Without the count, the same is handed out, and the same is left.
  have same : respondAll network asks start = _ :=
    bare_respondAll network.counted_mirrors asks (start.beside 0)
  rw [same]
  have within : given ≤ accepted network asks start := within
  have few : accepted network asks start < 2 ^ 64 := few
  generalize respondAll network.counted (asks.map Ask.beside) (start.beside 0) = result at ledger ⊢
  obtain ⟨handed, tcp⟩ := result
  rw [List.nil_append] at ledger
  refine ⟨fun id => (ledger.course id).begins, ?_, ?_, ?_, ?_⟩
  · -- What was handed out comes before what is queued.
    exact ledger.rising.sublist ((List.sublist_append_left handed tcp.events).filterMap _)
  -- What ends the course of a connection stands last in its part of the queue.
  · intro id connection known unread
    have known : tcp.connections.get? id = some connection := known
    have course := ledger.course id
    rw [known] at course
    exact course.ends unread
  -- An end in the queue would be one among the connection's own events.
  · intro id reading member
    have mine : .disconnected id ∈ eventsOf id tcp.events :=
      List.mem_filter.mpr ⟨member, by simp [Event.connection]⟩
    exact (ledger.course id).endless reading mine
  · intro id connection known
    have bound := ledger.entered id connection known
    have next : tcp.nextId = UInt64.ofNat (given + 1) := ledger.next
    show id.number < tcp.nextId ∨ tcp.nextId = 0 ∧ _
    -- Either there is a next number, or all of them have just been given out.
    rcases Nat.lt_or_ge (given + 1) (2 ^ 64) with small | full
    · left
      rw [UInt64.lt_iff_toNat_lt, next, UInt64.toNat_ofNat_of_lt' small]
      omega
    · right
      have exact : given + 1 = 2 ^ 64 := by omega
      refine ⟨?_, by omega⟩
      rw [next, exact]
      rfl

/-- A client whose frame comes with its close, and a second one that the server closes at once. -/
theorem grammar_of_half_close :
    let peer : SocketAddress := { ip := .v4 ⟨127, 0, 0, 1⟩, port := 40000 }
    let wire : Wire := { streams := [{ client := peer }, { client := peer }], backlog := [0, 1] }
    let asks : List (Ask Wire) := [.poll ⟨0⟩, .disconnect ⟨2⟩,
      .world fun wire => (wire.clientWrite 0 [2, 0, 0, 0, 7, 8]).clientDone 0, .poll ⟨0⟩, .poll ⟨0⟩]
    let start : Tcp Wire :=
      { network := wire, maxClients := 4, idleTimeout := ⟨1000⟩, patience := 3 }
    let result := respondAll Wire.network asks start
    accepted Wire.network asks start < 2 ^ 64 ∧
      result.1 = [.connected ⟨1⟩, .received ⟨1⟩ [7, 8], .disconnected ⟨1⟩] ∧
      Begins ⟨1⟩ (eventsOf ⟨1⟩ result.1) ∧ Begins ⟨2⟩ (eventsOf ⟨2⟩ result.1) := by
  intro peer wire asks start result
  -- The hypothesis is computed on the wire.
  have begins := (grammar_of_asks Wire.network asks wire 4 ⟨1000⟩ 3 (by decide +kernel)).1
  exact ⟨by decide +kernel, by decide +kernel, begins ⟨1⟩, begins ⟨2⟩⟩

end Tcp

end CallGate
