import CallGate.Proofs.Handshake
import CallGate.Startup

/-! A server listens only when its keys fit and every region is loaded. Otherwise the first thing in
the way is reported, and the machine it was to listen on is left alone. -/

namespace CallGate

variable {σ μ ν : Type}

namespace RegionTable

/-- A block was prepared: allocated with room for the closing return, filled, and then locked. -/
def Prepared (memory : ExecutableMemory μ) (payload : Bytes) (state : μ) (block : LockedBlock)
    (after : μ) : Prop :=
  ∃ writable middle, memory.allocate (payload.length + 1) state = (.ok writable, middle) ∧
    memory.lock (writable.write 0 (payload ++ [0xC3])) middle = (.ok block, after)

/-- Why no block was prepared: it was not allocated, or not locked once it was filled. -/
inductive Unprepared (memory : ExecutableMemory μ) (payload : Bytes) (state : μ) :
    MemoryError → Prop
  | unallocated (error : MemoryError) (after : μ)
    (failed : memory.allocate (payload.length + 1) state = (.error error, after)) :
    Unprepared memory payload state error
  | unlocked (writable : WritableBlock) (middle : μ) (error : MemoryError) (after : μ)
    (allocated : memory.allocate (payload.length + 1) state = (.ok writable, middle))
    (failed : memory.lock (writable.write 0 (payload ++ [0xC3])) middle = (.error error, after)) :
    Unprepared memory payload state error

/-- Records were loaded one behind the other, each from a block of its own. -/
inductive Stocked (memory : ExecutableMemory μ) : List RegionRecord → μ → List Region → μ → Prop
  | nil (state : μ) : Stocked memory [] state [] state
  | cons {record : RegionRecord} {records : List RegionRecord} {regions : List Region}
    {block : LockedBlock} {state middle after : μ}
    (prepared : Prepared memory record.payload state block middle)
    (later : Stocked memory records middle regions after) :
    Stocked memory (record :: records) state
      (⟨record.token, record.payload.length, (Sha256.hash record.payload).toHex, block⟩ :: regions)
      after

variable {memory : ExecutableMemory μ}

/-- Preparing a block comes to a block, or to a reason why there is none. -/
theorem prepare_cases (memory : ExecutableMemory μ) (payload : Bytes) (state : μ) :
    (∃ block after, prepare memory payload state = (.ok block, after) ∧
      Prepared memory payload state block after) ∨
    ∃ error after, prepare memory payload state = (.error error, after) ∧
      Unprepared memory payload state error := by
  -- The block is allocated first and locked with the payload in it, and either may be refused.
  unfold prepare returnOpcode
  cases allocated : memory.allocate (payload.length + 1) state with
  | mk outcome middle =>
  cases outcome with
  | error error => exact .inr ⟨error, middle, rfl, .unallocated error middle allocated⟩
  | ok writable =>
  cases locked : memory.lock (writable.write 0 (payload ++ [0xC3])) middle with
  | mk outcome after =>
  cases outcome with
  | error error =>
    exact .inr ⟨error, after, locked, .unlocked writable middle error after allocated locked⟩
  | ok block => exact .inl ⟨block, after, locked, writable, middle, allocated, locked⟩

/-- A block that was prepared is what preparing comes to. -/
theorem prepare_of_prepared {payload : Bytes} {state after : μ} {block : LockedBlock}
    (prepared : Prepared memory payload state block after) :
    prepare memory payload state = (.ok block, after) := by
  -- The two calls of the memory were both granted, which is all that preparing looks at.
  obtain ⟨writable, middle, allocated, locked⟩ := prepared
  simp only [prepare, returnOpcode, allocated, locked]

/-- A reason why there is no block is what preparing fails with. -/
theorem prepare_of_unprepared {payload : Bytes} {state : μ} {error : MemoryError}
    (unprepared : Unprepared memory payload state error) :
    (prepare memory payload state).1 = .error error := by
  -- One case for each call that may be refused: the allocation, and the lock behind it.
  cases unprepared with
  | unallocated _ after failed => simp only [prepare, failed]
  | unlocked writable middle _ after allocated failed =>
    simp only [prepare, returnOpcode, allocated, failed]

/-- Loading records comes to all regions, or to the place of the first that cannot be prepared. -/
theorem loadRecords_cases (memory : ExecutableMemory μ) (first : Nat)
    (records : List RegionRecord) (state : μ) :
    (∃ regions after, (loadRecords memory first records state).1 = .ok regions ∧
      Stocked memory records state regions after) ∨
    ∃ front record rest regions middle error, records = front ++ record :: rest ∧
      Stocked memory front state regions middle ∧
      Unprepared memory record.payload middle error ∧
      (loadRecords memory first records state).1 =
        .error (.memory (first + front.length) error) := by
  -- Induction on the records, along with the index of the first one and the state of the memory,
  -- both of which move on from record to record.
  induction records generalizing first state with
  | nil => exact .inl ⟨[], state, rfl, .nil state⟩
  | cons record records ih =>
    rcases prepare_cases memory record.payload state with
      ⟨block, middle, prepared, holds⟩ | ⟨error, after, failed, reason⟩
    · -- The first block is there, so the others decide.
      rcases ih (first + 1) middle with ⟨regions, after, loaded, stocked⟩ |
        ⟨front, wrong, rest, regions, later, error, rfl, stocked, reason, loaded⟩
      · refine .inl ⟨_, after, ?_, .cons holds stocked⟩
        simp only [loadRecords, prepared, loaded, Except.map]
      · refine .inr ⟨record :: front, wrong, rest, _, later, error, rfl, .cons holds stocked,
          reason, ?_⟩
        -- The index counts on from the first record, however many were loaded before it.
        have place : first + 1 + front.length = first + (record :: front).length := by
          rw [List.length_cons]
          omega
        simp only [loadRecords, prepared, loaded, place, Except.map]
    -- The first block is not there, so nothing behind it is looked at.
    · exact .inr ⟨[], record, records, [], state, error, rfl, .nil state, reason,
        by simp only [loadRecords, failed, List.length_nil, Nat.add_zero]⟩

/-- Behind regions that were loaded, the loading goes on with the next record. -/
theorem loadRecords_of_stocked {front : List RegionRecord} {regions : List Region}
    {state middle : μ} (stocked : Stocked memory front state regions middle) (first : Nat)
    (rest : List RegionRecord) :
    (loadRecords memory first (front ++ rest) state).1 =
      (loadRecords memory (first + front.length) rest middle).1.map (regions ++ ·) := by
  -- Induction on the regions that were loaded, each of which moves the index on by one.
  induction stocked generalizing first with
  | nil state =>
    rw [List.nil_append, List.length_nil, Nat.add_zero]
    -- Nothing stands before the regions that are still to come.
    cases (loadRecords memory first rest state).1 <;> rfl
  | @cons record records regions block state middle after prepared later ih =>
    have place : first + 1 + records.length = first + (record :: records).length := by
      rw [List.length_cons]
      omega
    simp only [List.cons_append, loadRecords, prepare_of_prepared prepared, ih, place]
    cases (loadRecords memory (first + (record :: records).length) rest after).1 <;> rfl

/-- The record whose block cannot be prepared ends the loading. -/
theorem loadRecords_of_unprepared {front : List RegionRecord} {regions : List Region}
    {state middle : μ} (stocked : Stocked memory front state regions middle)
    {record : RegionRecord} {error : MemoryError}
    (unprepared : Unprepared memory record.payload middle error) (first : Nat)
    (rest : List RegionRecord) :
    (loadRecords memory first (front ++ record :: rest) state).1 =
      .error (.memory (first + front.length) error) := by
  -- Up to this record all goes well, so the loading begins over with it as the first.
  have failed := prepare_of_unprepared unprepared
  rw [loadRecords_of_stocked stocked]
  cases prepared : prepare memory record.payload middle with
  | mk outcome after =>
    rw [prepared] at failed
    simp only at failed
    subst failed
    simp only [loadRecords, prepared, Except.map]

end RegionTable

namespace Startup

variable (crypto : Primitives σ) (memory : ExecutableMemory μ) (read : ReadFile)
  (plan : LaunchPlan) (pages : μ)

/-- Two files hold the keys, and the public one belongs to the secret one. -/
structure KeysFit (keys : KeyPair) : Prop where
  publicFile : read plan.publicKey = .ok keys.publicKey.bytes.toList
  privateFile : read plan.privateKey = .ok keys.secretKey.bytes.toList
  belongs : keys.publicKey = crypto.publicKey keys.secretKey

/-- Everything is there that a server needs before it listens. -/
structure Ready (loaded : Loaded) : Prop where
  keys : KeysFit crypto read plan loaded.keys
  regions : ∃ bytes records after, read plan.descriptor = .ok bytes ∧
    Descriptor.parse bytes = .ok records ∧
    RegionTable.Stocked memory records pages loaded.table.regions after

/-- The first thing that keeps a server from listening. -/
inductive Hindrance : ServerError → Prop
  | publicUnreadable (cause : IoError) (failed : read plan.publicKey = .error cause) :
    Hindrance (.keys (.unreadable plan.publicKey cause))
  | publicLength (bytes : Bytes) (held : read plan.publicKey = .ok bytes)
    (other : bytes.length ≠ 32) :
    Hindrance (.keys (.wrongLength plan.publicKey bytes.length))
  | privateUnreadable (shown : PublicKey) (cause : IoError)
    (publicHeld : read plan.publicKey = .ok shown.bytes.toList)
    (failed : read plan.privateKey = .error cause) :
    Hindrance (.keys (.unreadable plan.privateKey cause))
  | privateLength (shown : PublicKey) (bytes : Bytes)
    (publicHeld : read plan.publicKey = .ok shown.bytes.toList)
    (held : read plan.privateKey = .ok bytes) (other : bytes.length ≠ 32) :
    Hindrance (.keys (.wrongLength plan.privateKey bytes.length))
  | mismatch (shown : PublicKey) (secret : SecretKey)
    (publicHeld : read plan.publicKey = .ok shown.bytes.toList)
    (secretHeld : read plan.privateKey = .ok secret.bytes.toList)
    (other : shown ≠ crypto.publicKey secret) : Hindrance (.keys .mismatch)
  | descriptorUnreadable (keys : KeyPair) (cause : IoError)
    (fit : KeysFit crypto read plan keys) (failed : read plan.descriptor = .error cause) :
    Hindrance (.regions (.unreadable plan.descriptor cause))
  /-- The descriptor is cut off, or something follows its last record. -/
  | descriptor (keys : KeyPair) (bytes : Bytes) (cause : DescriptorError)
    (fit : KeysFit crypto read plan keys) (held : read plan.descriptor = .ok bytes)
    (malformed : Descriptor.parse bytes = .error cause) :
    Hindrance (.regions (.descriptor cause))
  /-- The regions before this one are loaded, and its block cannot be prepared. -/
  | memory (keys : KeyPair) (bytes : Bytes) (front rest : List RegionRecord)
    (record : RegionRecord) (regions : List Region) (middle : μ) (error : MemoryError)
    (fit : KeysFit crypto read plan keys) (held : read plan.descriptor = .ok bytes)
    (parsed : Descriptor.parse bytes = .ok (front ++ record :: rest))
    (stocked : RegionTable.Stocked memory front pages regions middle)
    (failed : RegionTable.Unprepared memory record.payload middle error) :
    Hindrance (.regions (.memory front.length error))

variable {crypto memory read plan pages}

/-- A file of thirty-two bytes is a key file. -/
theorem readKey_of_held {path : String} {key : FixedBytes keySize}
    (held : read path = .ok key.toList) : KeyPair.readKey read path = .ok key := by
  -- A key knows its own length, so the check on the bytes succeeds.
  simp only [KeyPair.readKey, held, key.length_toList, dite_true]

/-- A file that cannot be read is no key file. -/
theorem readKey_of_failed {path : String} {cause : IoError} (failed : read path = .error cause) :
    KeyPair.readKey read path = .error (.unreadable path cause) := by
  simp only [KeyPair.readKey, failed]

/-- A file of any other length is no key file. -/
theorem readKey_of_other {path : String} {bytes : Bytes} (held : read path = .ok bytes)
    (other : bytes.length ≠ 32) :
    KeyPair.readKey read path = .error (.wrongLength path bytes.length) := by
  -- The bytes are refused before anything is made of them.
  simp only [KeyPair.readKey, held, keySize, dif_neg other]

/-- Every file is one of these three. -/
theorem readKey_cases (read : ReadFile) (path : String) :
    (∃ key : FixedBytes keySize, read path = .ok key.toList) ∨
      (∃ cause, read path = .error cause) ∨
      ∃ bytes, read path = .ok bytes ∧ bytes.length ≠ 32 := by
  -- What the file answers is split first, and the length only of bytes that were read.
  cases held : read path with
  | error cause => exact .inr (.inl ⟨cause, rfl⟩)
  | ok bytes =>
    by_cases long : bytes.length = keySize
    · exact .inl ⟨⟨bytes, long⟩, rfl⟩
    · exact .inr (.inr ⟨bytes, rfl, long⟩)

/-- Loading keys comes to keys that fit, or to the first thing wrong with their files. -/
theorem loadKeys_cases (crypto : Primitives σ) (memory : ExecutableMemory μ) (read : ReadFile)
    (plan : LaunchPlan) (pages : μ) :
    (∃ keys, KeyPair.load crypto read plan.publicKey plan.privateKey = .ok keys ∧
      KeysFit crypto read plan keys) ∨
    ∃ error, KeyPair.load crypto read plan.publicKey plan.privateKey = .error error ∧
      Hindrance crypto memory read plan pages (.keys error) := by
  unfold KeyPair.load
  -- The public file is looked at as a whole before the private one is.
  rcases readKey_cases read plan.publicKey with
    ⟨shown, publicHeld⟩ | ⟨cause, failed⟩ | ⟨bytes, held, other⟩
  -- The public file is a key, so the private one is read.
  · rw [readKey_of_held publicHeld]
    rcases readKey_cases read plan.privateKey with
      ⟨secret, secretHeld⟩ | ⟨cause, failed⟩ | ⟨bytes, held, other⟩
    -- Both are keys, and what is left is whether they belong together.
    · rw [readKey_of_held secretHeld]
      by_cases belongs : crypto.publicKey ⟨secret⟩ = ⟨shown⟩
      · refine .inl ⟨⟨⟨shown⟩, ⟨secret⟩⟩, ?_, publicHeld, secretHeld, belongs.symm⟩
        simp only [KeyPair.ofSecret, belongs, if_true]
      · refine .inr ⟨.mismatch, ?_, .mismatch ⟨shown⟩ ⟨secret⟩ publicHeld secretHeld
          (Ne.symm belongs)⟩
        simp only [KeyPair.ofSecret, belongs, if_false]
    -- The private file cannot be read, or is too long or too short.
    · rw [readKey_of_failed failed]
      exact .inr ⟨_, rfl, .privateUnreadable ⟨shown⟩ cause publicHeld failed⟩
    · rw [readKey_of_other held other]
      exact .inr ⟨_, rfl, .privateLength ⟨shown⟩ bytes publicHeld held other⟩
  -- So may the public file be, and then the private one is never read.
  · rw [readKey_of_failed failed]
    exact .inr ⟨_, rfl, .publicUnreadable cause failed⟩
  · rw [readKey_of_other held other]
    exact .inr ⟨_, rfl, .publicLength bytes held other⟩

/-- Keys that fit are loaded. -/
theorem loadKeys_of_fit {keys : KeyPair} (fit : KeysFit crypto read plan keys) :
    KeyPair.load crypto read plan.publicKey plan.privateKey = .ok keys := by
  -- Both files are keys and they belong together, so each of the three checks succeeds.
  simp only [KeyPair.load, readKey_of_held fit.publicFile, readKey_of_held fit.privateFile,
    KeyPair.ofSecret, ← fit.belongs, if_true]

/-- With keys that fit, loading the regions comes to all of them, or to the first thing wrong with
the descriptor or with the memory. -/
theorem loadRegions_cases (memory : ExecutableMemory μ) (pages : μ) {keys : KeyPair}
    (fit : KeysFit crypto read plan keys) :
    (∃ table, (RegionTable.loadFile memory read plan.descriptor pages).1 = .ok table ∧
      Ready crypto memory read plan pages ⟨keys, table⟩) ∨
    ∃ error, (RegionTable.loadFile memory read plan.descriptor pages).1 = .error error ∧
      Hindrance crypto memory read plan pages (.regions error) := by
  unfold RegionTable.loadFile RegionTable.load
  -- The descriptor is read, then parsed, then loaded, and whatever fails first is the answer.
  cases held : read plan.descriptor with
  | error cause => exact .inr ⟨_, rfl, .descriptorUnreadable keys cause fit held⟩
  | ok bytes =>
  cases parsed : Descriptor.parse bytes with
  | error cause =>
    exact .inr ⟨_, by simp only [parsed], .descriptor keys bytes cause fit held parsed⟩
  | ok records =>
  rcases RegionTable.loadRecords_cases memory 0 records pages with
    ⟨regions, after, loaded, stocked⟩ |
    ⟨front, record, rest, regions, middle, error, rfl, stocked, failed, loaded⟩
  -- Every record found its block, and from these the table is built.
  · exact .inl ⟨⟨regions⟩, by simp only [parsed, loaded, Except.map], fit, bytes, records, after,
      held, parsed, stocked⟩
  -- The index that is reported counts from the first record of the whole descriptor.
  · rw [Nat.zero_add] at loaded
    exact .inr ⟨_, by simp only [parsed, loaded, Except.map],
      .memory keys bytes front rest record regions middle error fit held parsed stocked failed⟩

/-- With keys that are loaded, the regions decide. -/
theorem load_of_keys {keys : KeyPair}
    (loaded : KeyPair.load crypto read plan.publicKey plan.privateKey = .ok keys) :
    (load crypto memory read plan pages).1 =
      match (RegionTable.loadFile memory read plan.descriptor pages).1 with
      | .error cause => .error (.regions cause)
      | .ok table => .ok ⟨keys, table⟩ := by
  -- The log differs between the two ways, but not the outcome that is looked at here.
  simp only [load, loaded]
  rcases RegionTable.loadFile memory read plan.descriptor pages with ⟨_ | _, _, _⟩ <;> rfl

/-- Loading comes to everything a server needs, or to the first thing in its way. -/
theorem load_cases (crypto : Primitives σ) (memory : ExecutableMemory μ) (read : ReadFile)
    (plan : LaunchPlan) (pages : μ) :
    (∃ loaded, (load crypto memory read plan pages).1 = .ok loaded ∧
      Ready crypto memory read plan pages loaded) ∨
    ∃ error, (load crypto memory read plan pages).1 = .error error ∧
      Hindrance crypto memory read plan pages error := by
  -- The keys come first, and without them the regions are not even looked at.
  rcases loadKeys_cases crypto memory read plan pages with
    ⟨keys, given, fit⟩ | ⟨error, refused, hindrance⟩
  · rw [load_of_keys given]
    rcases loadRegions_cases memory pages fit with
      ⟨table, loaded, ready⟩ | ⟨error, failed, hindrance⟩
    · exact .inl ⟨⟨keys, table⟩, by rw [loaded], ready⟩
    · exact .inr ⟨.regions error, by rw [failed], hindrance⟩
  · exact .inr ⟨_, by simp only [load, refused], hindrance⟩

/-- Whatever is in the way is what loading fails with, so only one thing is the first. -/
theorem load_of_hindrance {error : ServerError}
    (hindrance : Hindrance crypto memory read plan pages error) :
    (load crypto memory read plan pages).1 = .error error := by
  -- Each hindrance stands in the way of the step it names, with all steps before it done.
  cases hindrance with
  | publicUnreadable cause failed => simp only [load, KeyPair.load, readKey_of_failed failed]
  | publicLength bytes held other => simp only [load, KeyPair.load, readKey_of_other held other]
  | privateUnreadable shown cause publicHeld failed =>
    simp only [load, KeyPair.load, readKey_of_held publicHeld, readKey_of_failed failed]
  | privateLength shown bytes publicHeld held other =>
    simp only [load, KeyPair.load, readKey_of_held publicHeld, readKey_of_other held other]
  | mismatch shown secret publicHeld secretHeld other =>
    -- The secret belongs to another key than the one that was shown.
    have foreign : ¬ crypto.publicKey ⟨secret.bytes⟩ = ⟨shown.bytes⟩ := Ne.symm other
    simp only [load, KeyPair.load, readKey_of_held publicHeld, readKey_of_held secretHeld,
      KeyPair.ofSecret, foreign, if_false]
  | descriptorUnreadable keys cause fit failed =>
    rw [load_of_keys (loadKeys_of_fit fit)]
    simp only [RegionTable.loadFile, failed]
  | descriptor keys bytes cause fit held malformed =>
    rw [load_of_keys (loadKeys_of_fit fit)]
    simp only [RegionTable.loadFile, held, RegionTable.load, malformed]
  | memory keys bytes front rest record regions middle error fit held parsed stocked failed =>
    -- The index is that of the first record that fails, counted from zero.
    have stopped := RegionTable.loadRecords_of_unprepared stocked failed 0 rest
    rw [Nat.zero_add] at stopped
    rw [load_of_keys (loadKeys_of_fit fit)]
    simp only [RegionTable.loadFile, held, RegionTable.load, parsed, stopped, Except.map]

/-- Everything that is there is loaded. -/
theorem load_of_ready {loaded : Loaded} (ready : Ready crypto memory read plan pages loaded) :
    (load crypto memory read plan pages).1 = .ok loaded := by
  -- All records are those in front of nothing, so the loading ends behind the last region.
  obtain ⟨fit, bytes, records, after, held, parsed, stocked⟩ := ready
  have whole := RegionTable.loadRecords_of_stocked stocked 0 []
  rw [List.append_nil] at whole
  rw [load_of_keys (loadKeys_of_fit fit)]
  simp only [RegionTable.loadFile, held, RegionTable.load, parsed, whole,
    RegionTable.loadRecords, Except.map, List.append_nil]

/-- A start that loads everything asks for a listener, and comes to what asking comes to. -/
theorem launch_of_loaded (network : Network ν) (patience : Nat) (state : ν) {loaded : Loaded}
    (complete : (load crypto memory read plan pages).1 = .ok loaded) :
    let start := launch crypto memory network read plan patience pages state
    let asked := Tcp.bind network plan.bindAddress plan.maxClients plan.idleTimeout patience state
    start.network = asked.2 ∧ start.result = match asked.1 with
      | .error cause => .error (.transport cause)
      | .ok (_, tcp) => .ok (loaded, tcp) := by
  -- The log of the loading is of no matter here, so the outcome is taken apart from it.
  intro start asked
  rcases given : load crypto memory read plan pages with ⟨outcome, after, log⟩
  rw [given] at complete
  simp only at complete
  subst complete
  simp only [start, asked, launch, given]
  -- Opening the listener is the last step, and its outcome becomes the outcome of the start.
  rcases Tcp.bind network plan.bindAddress plan.maxClients plan.idleTimeout patience state with
    ⟨_ | ⟨_, _⟩, _⟩ <;> exact ⟨rfl, rfl⟩

/-- A start that does not load everything leaves the machine alone. -/
theorem launch_of_failed (network : Network ν) (patience : Nat) (state : ν) {error : ServerError}
    (failed : (load crypto memory read plan pages).1 = .error error) :
    let start := launch crypto memory network read plan patience pages state
    start.network = state ∧ start.result = .error error := by
  -- The start returns before it turns to the network.
  intro start
  rcases given : load crypto memory read plan pages with ⟨outcome, after, log⟩
  rw [given] at failed
  simp only at failed
  subst failed
  simp only [start, launch, given]
  exact ⟨trivial, trivial⟩

/-- What a start comes to, whatever the files hold and whatever memory and machine do. -/
structure Guarded (crypto : Primitives σ) (memory : ExecutableMemory μ) (network : Network ν)
    (read : ReadFile) (plan : LaunchPlan) (patience : Nat) (pages : μ) (state : ν)
    (start : Outcome μ ν) : Prop where
  /-- Either everything is there, or something is the first that is not. -/
  decided : (∃ loaded, Ready crypto memory read plan pages loaded) ∨
    ∃ error, Hindrance crypto memory read plan pages error
  /-- With everything there, a listener is asked for, and the start comes to what is answered. -/
  opened (loaded : Loaded) (ready : Ready crypto memory read plan pages loaded) :
    let asked := Tcp.bind network plan.bindAddress plan.maxClients plan.idleTimeout patience state
    start.network = asked.2 ∧ start.result = match asked.1 with
      | .error cause => .error (.transport cause)
      | .ok (_, tcp) => .ok (loaded, tcp)
  /-- Otherwise the first thing that is not there is reported, and nothing is asked for. -/
  refused (error : ServerError) (hindrance : Hindrance crypto memory read plan pages error) :
    start.network = state ∧ start.result = .error error
  /-- There is only one such thing, and none when everything is there. -/
  sole (error : ServerError) (hindrance : Hindrance crypto memory read plan pages error) :
    (∀ other, Hindrance crypto memory read plan pages other → other = error) ∧
      ∀ loaded, ¬ Ready crypto memory read plan pages loaded
  /-- Whoever was asked for a listener, or answers for one, shows that everything was there. -/
  earned (touched : start.network ≠ state ∨ (∃ serving, start.result = .ok serving) ∨
      ∃ cause, start.result = .error (.transport cause)) :
    ∃ loaded, Ready crypto memory read plan pages loaded
  /-- However a key pair was obtained, its public key belongs to its secret. -/
  paired (keys : KeyPair) (built : keys.Built crypto) :
    keys.publicKey = crypto.publicKey keys.secretKey

/-- A listener is asked for exactly if the keys fit and every region is loaded. -/
theorem launch_guarded (crypto : Primitives σ) (memory : ExecutableMemory μ)
    (network : Network ν) (read : ReadFile) (plan : LaunchPlan) (patience : Nat) (pages : μ)
    (state : ν) :
    Guarded crypto memory network read plan patience pages state
      (launch crypto memory network read plan patience pages state) := by
  -- What loading comes to decides everything else, so it is settled once for all of the fields.
  have decided := load_cases crypto memory read plan pages
  refine {
    decided := decided.imp (Exists.imp fun _ => And.right) (Exists.imp fun _ => And.right)
    opened := fun _ ready => launch_of_loaded network patience state (load_of_ready ready)
    refused := fun _ hindrance =>
      launch_of_failed network patience state (load_of_hindrance hindrance)
    sole := ?_, earned := ?_
    paired := fun _ built => built.publicKey_eq }
  -- Loading has one outcome, so there is no other hindrance and nothing is ready.
  · intro error hindrance
    have failed := load_of_hindrance hindrance
    refine ⟨fun other later => ?_, fun loaded ready => ?_⟩
    · exact Except.error.inj ((load_of_hindrance later).symm.trans failed)
    · cases (load_of_ready ready).symm.trans failed
  -- Whoever touched the machine had everything loaded.
  · intro touched
    rcases decided with ⟨loaded, _, ready⟩ | ⟨error, failed, hindrance⟩
    · exact ⟨loaded, ready⟩
    · -- Something is missing, so neither the machine nor the answer is what is said here.
      obtain ⟨untouched, refused⟩ := launch_of_failed network patience state failed
      rcases touched with touched | ⟨serving, answered⟩ | ⟨cause, answered⟩
      · exact absurd untouched touched
      · cases refused.symm.trans answered
      · -- No hindrance is one of the transport.
        cases refused.symm.trans answered
        cases hindrance

/-- A start succeeds exactly if everything is there and a listener is opened for it. -/
theorem launch_eq_ok_iff (network : Network ν) (patience : Nat) (state : ν) {loaded : Loaded}
    {tcp : Tcp ν} :
    (launch crypto memory network read plan patience pages state).result = .ok (loaded, tcp) ↔
      Ready crypto memory read plan pages loaded ∧ ∃ address after,
        Tcp.bind network plan.bindAddress plan.maxClients plan.idleTimeout patience state =
          (.ok (address, tcp), after) := by
  -- The listener is opened exactly when everything was loaded, and then it decides alone.
  constructor
  · intro launched
    rcases load_cases crypto memory read plan pages with
      ⟨found, complete, ready⟩ | ⟨error, failed, _⟩
    · -- Everything was there, so the start came to what asking for a listener came to.
      obtain ⟨_, result⟩ := launch_of_loaded network patience state complete
      rcases asked : Tcp.bind network plan.bindAddress plan.maxClients plan.idleTimeout patience
        state with ⟨_ | ⟨address, opened⟩, after⟩
      · rw [launched, asked] at result
        cases result
      · rw [launched, asked] at result
        cases result
        exact ⟨ready, address, after, rfl⟩
    -- Something was missing, and no server is launched without it.
    · obtain ⟨_, refused⟩ := launch_of_failed network patience state failed
      cases launched.symm.trans refused
  -- With everything there, the opened listener is what the start comes to.
  · rintro ⟨ready, address, after, opened⟩
    obtain ⟨_, result⟩ := launch_of_loaded network patience state (load_of_ready ready)
    rw [result, opened]

section Serving

variable {ξ φ : Type} (network : Network ν) (invoker : Invoker ξ φ) (patience budget : Nat)
  (state : ν) (keeping : σ) (standing : Invoker.State ξ φ)

/-- Exactly what was loaded is served, over the listener that was opened for it, and nobody is
connected at first. -/
theorem run_served_iff {ended : Option TransportError}
    {last : Dispatcher.State (Tcp ν) σ ξ φ} :
    (run crypto memory network invoker read plan patience budget pages state keeping
      standing).served = some (ended, last) ↔
      ∃ loaded tcp, Ready crypto memory read plan pages loaded ∧
        (∃ address after,
          Tcp.bind network plan.bindAddress plan.maxClients plan.idleTimeout patience state =
            (.ok (address, tcp), after)) ∧
        (dispatcher network crypto invoker plan loaded).serve budget
          { transport := tcp, crypto := keeping, invoker := standing } = (ended, last) := by
  -- Serving begins exactly when the launch succeeds, with the listener and the table it answered.
  constructor
  · intro served
    rcases launched : (launch crypto memory network read plan patience pages state).result with
      cause | ⟨loaded, tcp⟩
    · simp only [run, launched] at served
      cases served
    · simp only [run, launched, Option.some.injEq] at served
      obtain ⟨ready, opened⟩ := (launch_eq_ok_iff network patience state).mp launched
      exact ⟨loaded, tcp, ready, opened, served⟩
  · rintro ⟨loaded, tcp, ready, opened, served⟩
    have launched := (launch_eq_ok_iff network patience state).mpr ⟨ready, opened⟩
    simp only [run, launched, served]

/-- A server that serves nothing says why. -/
theorem failure_of_unserved (idle : (run crypto memory network invoker read plan patience budget
    pages state keeping standing).served = none) :
    ∃ cause, (run crypto memory network invoker read plan patience budget pages state keeping
      standing).failure = some cause ∧
      (launch crypto memory network read plan patience pages state).result = .error cause := by
  -- The launch failed or did not, and only in the first case is nothing served.
  rcases launched : (launch crypto memory network read plan patience pages state).result with
    cause | ⟨loaded, tcp⟩
  · exact ⟨cause, by simp only [Service.failure, run, launched], rfl⟩
  · -- Whatever was launched is served.
    simp only [run, launched] at idle
    cases idle

end Serving

end Startup

end CallGate
