import CallGate.Proofs.Crypto.Sha256
import CallGate.Region.Table

/-! Regions are loaded one behind the other, each as a whole before the next one is begun, and the
first that cannot be loaded ends the loading. -/

namespace CallGate

namespace RegionRecord

/-- The code of a region: its payload, and a return that closes it. -/
def code (record : RegionRecord) : Bytes := record.payload ++ [0xC3]

/-- What memory is asked for to load a record: a block that holds its code, and the lock of the
block when all of the code is in it. -/
def requests (index : Nat) (record : RegionRecord) : List MemoryEvent :=
  [.allocate index (record.payload.length + 1), .makeExecutable index record.code]

/-- The region that a record is loaded as. -/
def region (index : Nat) (record : RegionRecord) : Region where
  token := record.token
  payloadLength := record.payload.length
  digest := (Sha256.hash record.payload).toHex
  block := ⟨index, record.code⟩

/-- What is logged of a record, with a warning if its token is not its place. -/
def entries (index : Nat) (record : RegionRecord) : List Notice :=
  .regionLoaded index record.token record.payload.length (Sha256.hash record.payload).toHex ::
    if record.token.toNat ≠ index then [.tokenDiffers index record.token] else []

/-- A text spells the digest of a record's payload. -/
def SpellsDigest (record : RegionRecord) (text : String) : Prop :=
  ∃ digest, Sha256.IsDigest record.payload digest ∧ Bytes.IsHex digest text.toList

/-- The text that goes with a record spells the digest of its payload. -/
theorem spellsDigest_hash (record : RegionRecord) :
    record.SpellsDigest (Sha256.hash record.payload).toHex :=
  ⟨_, Sha256.isDigest_hash record.payload, Bytes.isHex_toHex _⟩

/-- Records were logged in their order, the first one standing at this place: each with its digest,
and with a warning if its token is not its place. -/
inductive Logged : Nat → List RegionRecord → List Notice → Prop
  | nil (index : Nat) : Logged index [] []
  | cons {index : Nat} {record : RegionRecord} {records : List RegionRecord} {digest : String}
    {log : List Notice} (spelled : record.SpellsDigest digest)
    (others : Logged (index + 1) records log) :
    Logged index (record :: records)
      (.regionLoaded index record.token record.payload.length digest ::
        (if record.token.toNat ≠ index then [.tokenDiffers index record.token] else []) ++ log)

/-- What every record gives at its place, the first one standing at this place. -/
def collect {α : Type} (each : Nat → RegionRecord → List α) (first : Nat)
    (records : List RegionRecord) : List α :=
  (records.zipIdx first).flatMap fun entry => each entry.2 entry.1

section Collecting

variable {α : Type} (each : Nat → RegionRecord → List α) (first : Nat)

/-- No record comes to nothing. -/
@[simp] theorem collect_nil : collect each first [] = [] := rfl

/-- A record comes first, and the others are counted from one more. -/
@[simp] theorem collect_cons (record : RegionRecord) (records : List RegionRecord) :
    collect each first (record :: records) =
      each first record ++ collect each (first + 1) records := rfl

end Collecting

/-- The entries of records log them. -/
theorem logged_entries (records : List RegionRecord) (first : Nat) :
    Logged first records (collect entries first records) := by
  -- Induction on the records, each of which is logged under its own index.
  induction records generalizing first with
  | nil => exact .nil first
  | cons record records ih => exact .cons record.spellsDigest_hash (ih (first + 1))

end RegionRecord

/-- The block that something was asked for. -/
def MemoryEvent.block : MemoryEvent → Nat
  | allocate index _ => index
  | makeExecutable index _ => index

namespace RegionRecord

/-- A record asks for the block of its place, and for no other. -/
theorem filter_own (record : RegionRecord) (place index : Nat) :
    (record.requests place).filter (fun event => event.block = index) =
      if place = index then record.requests place else [] := by
  -- Both events of a record name its place.
  by_cases same : place = index <;> simp [requests, MemoryEvent.block, same]

/-- Nothing is asked for before the first place. -/
theorem filter_requests_of_lt (records : List RegionRecord) {first index : Nat}
    (before : index < first) :
    (collect requests first records).filter (fun event => event.block = index) = [] := by
  -- Induction on the records, whose places only grow.
  induction records generalizing first with
  | nil => rfl
  | cons record records ih =>
    have differs : first ≠ index := by omega
    rw [collect_cons, List.filter_append, filter_own, if_neg differs, ih (Nat.lt_succ_of_lt before),
      List.append_nil]

/-- What is asked for a block is what its record asks for, once. -/
theorem filter_requests {records : List RegionRecord} {record : RegionRecord} (first : Nat)
    {place : Nat} (there : records[place]? = some record) :
    (collect requests first records).filter (fun event => event.block = first + place) =
      record.requests (first + place) := by
  -- Induction on the records, along with the place that is looked for among them.
  induction records generalizing first place with
  | nil => simp at there
  | cons head records ih =>
    rw [collect_cons, List.filter_append, filter_own]
    cases place with
    | zero =>
      -- The record is the first one, and the others ask for later blocks.
      obtain rfl : head = record := by simpa using there
      rw [Nat.add_zero, if_pos rfl, filter_requests_of_lt records (Nat.lt_succ_self first),
        List.append_nil]
    | succ place =>
      -- The first one asks for another block, and the record has the same place among the others.
      have differs : first ≠ first + (place + 1) := by omega
      have others := ih (first + 1) there
      rw [Nat.add_assoc, Nat.add_comm 1] at others
      rw [if_neg differs, List.nil_append, others]

end RegionRecord

namespace RehearsalMemory

/-- The block with this number cannot be allocated, or it cannot be locked. -/
def Fails (memory : RehearsalMemory) (index : Nat) : Prop :=
  memory.failAllocation = some index ∨ memory.failLock = some index

/-- Why the block with this number cannot be prepared. Allocating comes before locking. -/
def failure (memory : RehearsalMemory) (index length : Nat) : MemoryError :=
  if memory.failAllocation = some index then
    .allocationFailed length (.described .outOfMemory "injected allocation failure")
  else .protectFailed length (.described .permissionDenied "injected protect failure")

/-- The memory after it has prepared blocks for records. -/
def holding (memory : RehearsalMemory) (records : List RegionRecord) : RehearsalMemory :=
  { memory with
    allocated := memory.allocated + records.length
    events := memory.events ++ RegionRecord.collect RegionRecord.requests memory.allocated records }

/-- Holding records one after the other is holding all of them. -/
theorem holding_cons (memory : RehearsalMemory) (record : RegionRecord)
    (records : List RegionRecord) :
    (memory.holding [record]).holding records = memory.holding (record :: records) := by
  -- The blocks are counted on from those that are there already.
  have count : memory.allocated + 1 + records.length =
      memory.allocated + (record :: records).length := by
    rw [List.length_cons]
    omega
  simp [holding, count]

section Preparing

variable {memory : RehearsalMemory} (record : RegionRecord)

/-- A block is written as a whole, so nothing is left of what was in it. -/
theorem write_code (address : Nat) :
    WritableBlock.write ⟨address, List.replicate (record.payload.length + 1) 0⟩ 0
      (record.payload ++ [returnOpcode]) = ⟨address, record.code⟩ := by
  -- The payload and the return fill the block exactly.
  simp [WritableBlock.write, RegionRecord.code, returnOpcode]

/-- A block that does not fail is allocated, written and locked. -/
theorem prepare_of_sound (sound : ¬ memory.Fails memory.allocated) :
    RegionTable.prepare RehearsalMemory.memory record.payload memory =
      (.ok ⟨memory.allocated, record.code⟩, memory.holding [record]) := by
  -- Neither the allocation nor the lock of this block is to fail.
  rw [Fails, not_or] at sound
  simp only [RegionTable.prepare, RehearsalMemory.memory, allocate, Nat.succ_ne_zero, if_false,
    if_neg sound.1, write_code, lock, if_neg sound.2]
  simp [holding, RegionRecord.requests]

/-- Of a block that fails no more is asked for than its allocation, and that only if it is not the
allocation that fails. -/
theorem prepare_of_fails (fails : memory.Fails memory.allocated) :
    ∃ after, RegionTable.prepare RehearsalMemory.memory record.payload memory =
        (.error (memory.failure memory.allocated (record.payload.length + 1)), after) ∧
      after.events = memory.events ++
        if memory.failAllocation = some memory.allocated then []
        else [.allocate memory.allocated (record.payload.length + 1)] := by
  -- It fails at its allocation or else at its lock, and the events tell which.
  by_cases early : memory.failAllocation = some memory.allocated
  · -- The allocation fails, and the memory has not even counted the block.
    refine ⟨memory, ?_, by rw [if_pos early, List.append_nil]⟩
    simp only [RegionTable.prepare, RehearsalMemory.memory, allocate, Nat.succ_ne_zero, if_false,
      if_pos early, failure]
  · -- The block is there and written when the lock fails.
    have late : memory.failLock = some memory.allocated := fails.resolve_left early
    simp only [RegionTable.prepare, RehearsalMemory.memory, allocate, Nat.succ_ne_zero, if_false,
      if_neg early, write_code, lock, if_pos late, failure]
    exact ⟨_, by rw [RegionRecord.code, List.length_append]; rfl, rfl⟩

end Preparing

end RehearsalMemory

namespace RegionTable

open RegionRecord

/-- What is logged when a region is loaded. -/
theorem notices_eq_entries (index : Nat) (record : RegionRecord) :
    notices index record = entries index record := by
  -- The warning is logged under the same condition on both sides.
  unfold notices entries
  split
  · rename_i same
    simp [same]
  · simp

variable {memory : RehearsalMemory}

/-- The regions that records are loaded as, the first one at this place. -/
def regionsFrom (first : Nat) (records : List RegionRecord) : List Region :=
  (records.zipIdx first).map fun entry => entry.1.region entry.2

/-- Records whose blocks do not fail are loaded, and the loading goes on behind them. -/
theorem loadRecords_append {front rest : List RegionRecord}
    (sound : ∀ place < front.length, ¬ memory.Fails (memory.allocated + place))
    {outcome : Except RegionError (List Region)} {after : RehearsalMemory} {log : List Notice}
    (later : loadRecords RehearsalMemory.memory (memory.allocated + front.length) rest
      (memory.holding front) = (outcome, after, log)) :
    loadRecords RehearsalMemory.memory memory.allocated (front ++ rest) memory =
      (outcome.map (regionsFrom memory.allocated front ++ ·), after,
        collect entries memory.allocated front ++ log) := by
  -- Induction on the records in front, with the memory that already holds those before it.
  induction front generalizing memory outcome log with
  | nil =>
    -- No block has been asked for, so the memory is the one given.
    have same : memory.holding [] = memory := by simp [RehearsalMemory.holding]
    rw [same] at later
    rw [List.nil_append, collect_nil, List.nil_append]
    refine Eq.trans later ?_
    cases outcome <;> rfl
  | cons record front ih =>
    -- The first block is prepared, and the memory that holds it has the other places to fail at.
    have prepared := RehearsalMemory.prepare_of_sound record (sound 0 (Nat.zero_lt_succ _))
    -- A place behind the first is counted from one more.
    have others : ∀ place < front.length,
        ¬ (memory.holding [record]).Fails ((memory.holding [record]).allocated + place) := by
      intro place within
      have next := sound (place + 1) (Nat.succ_lt_succ within)
      rwa [Nat.add_comm place, ← Nat.add_assoc] at next
    rw [← RehearsalMemory.holding_cons, List.length_cons, Nat.add_comm front.length,
      ← Nat.add_assoc] at later
    have next := ih others later
    rw [List.cons_append, loadRecords, prepared]
    have reached : (memory.holding [record]).allocated = memory.allocated + 1 := rfl
    rw [reached] at next
    simp only [next, notices_eq_entries, collect_cons, List.append_assoc]
    cases outcome <;> rfl

/-- Records whose blocks do not fail are all loaded. -/
theorem loadRecords_of_sound {records : List RegionRecord}
    (sound : ∀ place < records.length, ¬ memory.Fails (memory.allocated + place)) :
    loadRecords RehearsalMemory.memory memory.allocated records memory =
      (.ok (regionsFrom memory.allocated records), memory.holding records,
        collect entries memory.allocated records) := by
  -- All of them stand in front of no others.
  have none : loadRecords RehearsalMemory.memory (memory.allocated + records.length) []
      (memory.holding records) = (.ok [], memory.holding records, []) := rfl
  simpa [Except.map] using loadRecords_append sound none

/-- The first record whose block fails ends the loading, with those before it loaded. -/
theorem loadRecords_of_fails {front : List RegionRecord} (record : RegionRecord)
    (rest : List RegionRecord)
    (sound : ∀ place < front.length, ¬ memory.Fails (memory.allocated + place))
    (fails : memory.Fails (memory.allocated + front.length)) :
    ∃ after,
      loadRecords RehearsalMemory.memory memory.allocated (front ++ record :: rest) memory =
        (.error (.memory (memory.allocated + front.length)
          (memory.failure (memory.allocated + front.length) (record.payload.length + 1))),
          after, collect entries memory.allocated front) ∧
      after.events = memory.events ++ collect requests memory.allocated front ++
        if memory.failAllocation = some (memory.allocated + front.length) then []
        else [.allocate (memory.allocated + front.length) (record.payload.length + 1)] := by
  -- The memory that holds the records before it fails at the next block.
  have here : (memory.holding front).Fails (memory.holding front).allocated := fails
  obtain ⟨after, prepared, asked⟩ := RehearsalMemory.prepare_of_fails record here
  refine ⟨after, ?_, asked⟩
  have later : loadRecords RehearsalMemory.memory (memory.allocated + front.length)
      (record :: rest) (memory.holding front) =
        (.error (.memory (memory.allocated + front.length)
          (memory.failure (memory.allocated + front.length) (record.payload.length + 1))),
          after, []) := by
    rw [loadRecords, prepared]
    rfl
  have loaded := loadRecords_append sound later
  simpa [Except.map] using loaded

/-- Either no record fails at its place, or there is a first one that does. -/
theorem sound_or_first_fails (fails : Nat → Prop) (records : List RegionRecord) :
    (∀ place < records.length, ¬ fails place) ∨
      ∃ front record rest, records = front ++ record :: rest ∧
        (∀ place < front.length, ¬ fails place) ∧ fails front.length := by
  -- Induction on the records, with the question asked anew for the places behind the first.
  induction records generalizing fails with
  | nil => exact .inl (by simp)
  | cons head records ih =>
    by_cases here : fails 0
    -- The first one fails, with nothing in front of it.
    · exact .inr ⟨[], head, records, rfl, by simp, here⟩
    · -- The places behind the first one are those of the other records, moved up by one.
      rcases ih fun place => fails (place + 1) with sound | ⟨front, record, rest, rfl, sound, later⟩
      · refine .inl fun place within => ?_
        cases place with
        | zero => exact here
        | succ place => exact sound place (Nat.lt_of_succ_lt_succ within)
      · refine .inr ⟨head :: front, record, rest, rfl, fun place within => ?_, later⟩
        cases place with
        | zero => exact here
        | succ place => exact sound place (Nat.lt_of_succ_lt_succ within)

/-- Records were loaded into a table: one region for each of them, in their order, each from a
block that was asked for once, and locked once with all of its code in it. -/
structure Loaded (records : List RegionRecord) (table : RegionTable) (events : List MemoryEvent)
    (log : List Notice) : Prop where
  size : table.size = records.length
  region (index : Nat) (record : RegionRecord) (there : records[index]? = some record) :
    ∃ region, table.regions[index]? = some region ∧ region.token = record.token ∧
      region.payloadLength = record.payload.length ∧
      region.block.code = record.payload ++ [0xC3] ∧
      region.block.code.length = record.payload.length + 1 ∧
      record.SpellsDigest region.digest
  asked : events = collect requests 0 records
  once (index : Nat) (record : RegionRecord) (there : records[index]? = some record) :
    events.filter (fun event => event.block = index) =
      [.allocate index (record.payload.length + 1),
        .makeExecutable index (record.payload ++ [0xC3])]
  logged : Logged 0 records log

/-- Records whose blocks do not fail are loaded. -/
theorem loaded_of_records (records : List RegionRecord) :
    Loaded records ⟨regionsFrom 0 records⟩ (collect requests 0 records)
      (collect entries 0 records) where
  size := by simp [RegionTable.size, regionsFrom]
  region index record there :=
    -- A region is its record at its place, with the payload behind the digest that was logged.
    ⟨record.region index, by simp [regionsFrom, there], rfl, rfl, rfl,
      by simp [RegionRecord.region, RegionRecord.code], record.spellsDigest_hash⟩
  asked := rfl
  once index record there := by
    -- The records count from zero, so the place among them is the index of the block.
    have own := filter_requests 0 there
    rwa [Nat.zero_add] at own
  logged := logged_entries records 0

section Fresh

variable {start : RehearsalMemory} (fresh : start.allocated = 0) {descriptor : Bytes}

include fresh

/-- A descriptor whose blocks do not fail is loaded as a whole. -/
theorem load_of_sound {records : List RegionRecord}
    (parsed : Descriptor.parse descriptor = .ok records)
    (sound : ∀ place < records.length, ¬ start.Fails place) :
    load RehearsalMemory.memory descriptor start =
      (.ok ⟨regionsFrom 0 records⟩, start.holding records, collect entries 0 records) := by
  -- The first block of fresh memory has the number of the first record.
  have places : ∀ place < records.length, ¬ start.Fails (start.allocated + place) := by
    simpa [fresh]
  have loaded := loadRecords_of_sound places
  rw [fresh] at loaded
  simp only [load, parsed, loaded, Except.map]

/-- A descriptor with a first record whose block fails is loaded up to that record. -/
theorem load_of_fails {front rest : List RegionRecord} {record : RegionRecord}
    (parsed : Descriptor.parse descriptor = .ok (front ++ record :: rest))
    (sound : ∀ place < front.length, ¬ start.Fails place) (fails : start.Fails front.length) :
    ∃ after, load RehearsalMemory.memory descriptor start =
        (.error (.memory front.length
          (start.failure front.length (record.payload.length + 1))),
          after, collect entries 0 front) ∧
      after.events = start.events ++ collect requests 0 front ++
        if start.failAllocation = some front.length then []
        else [.allocate front.length (record.payload.length + 1)] := by
  -- The blocks of fresh memory are numbered as the records are.
  have places : ∀ place < front.length, ¬ start.Fails (start.allocated + place) := by
    simpa [fresh]
  have here : start.Fails (start.allocated + front.length) := by simpa [fresh]
  obtain ⟨after, loaded, asked⟩ := loadRecords_of_fails record rest places here
  rw [fresh, Nat.zero_add] at loaded asked
  exact ⟨after, by simp only [load, parsed, loaded, Except.map], asked⟩

/-- If a table was loaded, no block has failed. -/
theorem sound_of_loaded {records : List RegionRecord} {table : RegionTable}
    (parsed : Descriptor.parse descriptor = .ok records)
    (loaded : (load RehearsalMemory.memory descriptor start).1 = .ok table) :
    ∀ place < records.length, ¬ start.Fails place := by
  -- A first block that fails would have ended the loading.
  rcases sound_or_first_fails start.Fails records with
    sound | ⟨front, record, rest, rfl, sound, fails⟩
  · exact sound
  · obtain ⟨after, ended, _⟩ := load_of_fails fresh parsed sound fails
    rw [ended] at loaded
    cases loaded

end Fresh

/-- A descriptor is loaded into fresh memory exactly if it can be read and none of its records
stands at the place of a block that fails. The first record that does is named, nothing of it or of
those behind it is logged, and all before it were loaded as they would have been otherwise. -/
theorem load_rehearsed (descriptor : Bytes) (failAllocation failLock : Option Nat) :
    let start : RehearsalMemory := { failAllocation, failLock }
    let result := load RehearsalMemory.memory descriptor start
    ((∃ table, result.1 = .ok table) ↔ ∃ records, Descriptor.parse descriptor = .ok records ∧
        ∀ index < records.length, ¬ start.Fails index) ∧
      (∀ records table, Descriptor.parse descriptor = .ok records → result.1 = .ok table →
        Loaded records table result.2.1.events result.2.2) ∧
      (∀ error, Descriptor.parse descriptor = .error error →
        result.1 = .error (.descriptor error) ∧ result.2.1.events = [] ∧ result.2.2 = []) ∧
      ∀ front record rest, Descriptor.parse descriptor = .ok (front ++ record :: rest) →
        (∀ index < front.length, ¬ start.Fails index) → start.Fails front.length →
        result.1 = .error (.memory front.length
          (start.failure front.length (record.payload.length + 1))) ∧
        result.2.1.events = collect requests 0 front ++
          (if failAllocation = some front.length then []
            else [.allocate front.length (record.payload.length + 1)]) ∧
        Logged 0 front result.2.2 := by
  intro start result
  -- Loading succeeds exactly on sound memory, then what it comes to, and its two ways to fail.
  refine ⟨⟨?_, ?_⟩, ?_, ?_, ?_⟩
  -- A table can only come of a descriptor that was read.
  · rintro ⟨table, loaded⟩
    cases parsed : Descriptor.parse descriptor with
    | error error => simp [result, load, parsed] at loaded
    | ok records => exact ⟨records, rfl, sound_of_loaded rfl parsed loaded⟩
  -- Sound memory loads whatever was read.
  · rintro ⟨records, parsed, sound⟩
    exact ⟨_, congrArg Prod.fst (load_of_sound rfl parsed sound)⟩
  · -- A table that was loaded is the one that sound memory gives.
    intro records table parsed loaded
    have whole := load_of_sound rfl parsed (sound_of_loaded rfl parsed loaded)
    have same : result = _ := whole
    rw [same] at loaded ⊢
    cases loaded
    exact loaded_of_records records
  -- Nothing is asked of memory before the descriptor is read.
  · intro error parsed
    simp [result, load, parsed, start]
  -- The memory fails at the first record that it is to fail at, and no other is reached.
  · intro front record rest parsed sound fails
    obtain ⟨after, ended, asked⟩ := load_of_fails rfl parsed sound fails
    have same : result = _ := ended
    rw [same]
    exact ⟨rfl, asked, logged_entries front 0⟩

/-- Three records, the second of which has another token than its place: loaded as a whole, up to
the second one if its block cannot be locked, and not at all behind a byte too many. -/
theorem load_rehearsed_of_three_records :
    let front : List RegionRecord := [⟨0, [0x90]⟩]
    let record : RegionRecord := ⟨7, [0x48, 0x90]⟩
    let records := front ++ [record, ⟨2, []⟩]
    let descriptor := Descriptor.encode records
    let sound : RehearsalMemory := {}
    let failing : RehearsalMemory := { failLock := some 1 }
    let whole := load RehearsalMemory.memory descriptor sound
    let part := load RehearsalMemory.memory descriptor failing
    Descriptor.parse descriptor = .ok records ∧
      (∃ table, whole.1 = .ok table ∧ Loaded records table whole.2.1.events whole.2.2) ∧
      (∀ index < front.length, ¬ failing.Fails index) ∧ failing.Fails front.length ∧
      part.1 = .error (.memory 1
        (.protectFailed 3 (.described .permissionDenied "injected protect failure"))) ∧
      part.2.1.events =
        [.allocate 0 2, .makeExecutable 0 [0x90, 0xC3], .allocate 1 3] ∧
      Logged 0 front part.2.2 ∧
      part.2.2 = [.regionLoaded 0 0 1
        "9e076ceaf246b6003d9c2680a2b4cf0bffd069805902b0b5edeebf49039fe4bd"] ∧
      (load RehearsalMemory.memory (descriptor ++ [0]) sound).1 =
        .error (.descriptor (.trailing 1)) := by
  -- Reading the three descriptors is evaluated, and the rest follows from the theorem.
  intro front record records descriptor sound failing whole part
  have parsed : Descriptor.parse descriptor = .ok records := by cbv
  have longer : Descriptor.parse (descriptor ++ [0]) = .error (.trailing 1) := by cbv
  have early : ∀ index < front.length, ¬ failing.Fails index := by
    simp [front, failing, RehearsalMemory.Fails]
  have fails : failing.Fails front.length := .inr rfl
  obtain ⟨succeeds, loaded, _, _⟩ := load_rehearsed descriptor none none
  obtain ⟨_, _, _, aborted⟩ := load_rehearsed descriptor none (some 1)
  obtain ⟨_, _, refused, _⟩ := load_rehearsed (descriptor ++ [0]) none none
  obtain ⟨table, made⟩ := succeeds.mpr ⟨records, parsed, by simp [RehearsalMemory.Fails]⟩
  obtain ⟨ended, asked, logged⟩ := aborted front record [⟨2, []⟩] parsed early fails
  exact ⟨parsed, ⟨table, made, loaded records table parsed made⟩, early, fails, ended, asked,
    logged, by decide +kernel, (refused _ longer).1⟩

end RegionTable

end CallGate
