import CallGate.Proofs.Invocation
import Mathlib.Data.List.Forall2

/-! What clients, regions and the server can learn of each other's flags: the status bits, however
many requests there are and whatever a region remembers of those before. -/

namespace CallGate

namespace Flags

/-- Laying status bits over flags leaves these status bits. -/
@[simp] theorem status_withStatusOf (flags source : Flags) :
    (flags.withStatusOf source).status = source.status := by
  simp only [withStatusOf, status, nonStatus]
  -- Bit by bit: where the mask has a bit, only the source has one left.
  apply UInt64.toBitVec_inj.mp
  ext place
  simp
  grind

/-- Laying status bits over flags leaves all other bits. -/
@[simp] theorem nonStatus_withStatusOf (flags source : Flags) :
    (flags.withStatusOf source).nonStatus = flags.nonStatus := by
  simp only [withStatusOf, status, nonStatus]
  -- Bit by bit: where the mask has none, only the flags have one left.
  apply UInt64.toBitVec_inj.mp
  ext place
  simp
  grind

/-- Flags lie under their own status bits. -/
@[simp] theorem withStatusOf_self (flags : Flags) : flags.withStatusOf flags = flags := by
  -- Every bit is in the mask or outside of it, and kept by one of the two.
  have whole : flags.nonStatus ||| flags.status = flags.bits := by
    apply UInt64.toBitVec_inj.mp
    ext place
    simp [status, nonStatus]
    grind
  simp only [withStatusOf, whole]

/-- Flags with the same bits but status bits. -/
def SameControl (flags other : Flags) : Prop := flags.nonStatus = other.nonStatus

/-- The bits of both sorts are all that flags are. -/
theorem eq_of_status {flags other : Flags} (nonStatus : flags.nonStatus = other.nonStatus)
    (status : flags.status = other.status) : flags = other := by
  -- Flags are put together again from their two sorts of bits.
  rw [← flags.withStatusOf_self, ← other.withStatusOf_self, withStatusOf, withStatusOf, nonStatus,
    status]

end Flags

namespace RegisterFile

/-- What a register file shows to the other side: everything but the flags that govern the
processor. -/
def shared (file : RegisterFile) : RegisterFile :=
  { file with rflags := Flags.status ⟨file.rflags⟩ }

/-- What a region computed: the registers and the status bits that it left. -/
def computed (file : RegisterFile) : RegisterFile := { file.shared with token := 0 }

/-- The register file as a region finds it while the server runs with these flags. -/
def under (file : RegisterFile) (baseline : Flags) : RegisterFile :=
  { file with rflags := (baseline.withStatusOf ⟨file.rflags⟩).bits }

/-- What the client of a register file gets back once a region left another one. -/
def answered (file left : RegisterFile) : RegisterFile :=
  { left with rflags := (Flags.withStatusOf ⟨file.rflags⟩ ⟨left.rflags⟩).bits, token := file.token }

/-- The flags of the server do not change what a register file shows. -/
theorem shared_under (file : RegisterFile) (baseline : Flags) :
    (file.under baseline).shared = file.shared := by
  -- Only status bits are shown, and these are the ones laid over.
  have status := Flags.status_withStatusOf baseline ⟨file.rflags⟩
  simp only [shared, under, status]

/-- An answer shows what the region computed, to the token that was asked for. -/
theorem shared_answered (file left : RegisterFile) :
    (file.answered left).shared = { left.computed with token := file.token } := by
  -- The status bits come from the region, and the token is set at the end.
  have status := Flags.status_withStatusOf ⟨file.rflags⟩ ⟨left.rflags⟩
  simp only [shared, answered, computed, status]

/-- An answer echoes the control bits of the client's own flags. -/
theorem nonStatus_answered (file left : RegisterFile) :
    Flags.nonStatus ⟨(file.answered left).rflags⟩ = Flags.nonStatus ⟨file.rflags⟩ :=
  Flags.nonStatus_withStatusOf _ _

/-- Register files that show the same select the same region. -/
theorem token_eq_of_shared {file file' : RegisterFile} (alike : file.shared = file'.shared) :
    file.token = file'.token := by
  have token : file.shared.token = file'.shared.token := congrArg RegisterFile.token alike
  exact token

/-- Nothing but control bits is missing in what a register file shows. -/
theorem eq_of_shared {file file' : RegisterFile} (alike : file.shared = file'.shared)
    (control : Flags.nonStatus ⟨file.rflags⟩ = Flags.nonStatus ⟨file'.rflags⟩) : file = file' := by
  -- The status bits are shown, and the control bits are given, so the flags are the same.
  have status : Flags.status ⟨file.rflags⟩ = Flags.status ⟨file'.rflags⟩ :=
    congrArg RegisterFile.rflags alike
  have flags : file.rflags = file'.rflags := congrArg Flags.bits (Flags.eq_of_status control status)
  cases file
  cases file'
  simp_all [shared]

/-- Register files that show the same are the same under flags with the same control bits. -/
theorem under_congr {file file' : RegisterFile} (alike : file.shared = file'.shared)
    {baseline baseline' : Flags} (same : baseline.SameControl baseline') :
    file.under baseline = file'.under baseline' := by
  -- Two register files are the same if they show the same under the same control bits.
  apply eq_of_shared
  · rw [shared_under, shared_under, alike]
  · -- Either way the control bits are those of the server.
    show (baseline.withStatusOf _).nonStatus = (baseline'.withStatusOf _).nonStatus
    rw [Flags.nonStatus_withStatusOf, Flags.nonStatus_withStatusOf]
    exact same

end RegisterFile

/-- The flags at so many readings from now. -/
def FlagSource.answer {φ : Type} (source : FlagSource φ) : Nat → φ → Flags
  | 0, state => (source.read state).1
  | count + 1, state => source.answer count (source.read state).2

/-- A source that always answers the same does so at every reading. -/
theorem FlagSource.answer_fixed (baseline : Flags) (count : Nat) (state : Unit) :
    (FlagSource.fixed baseline).answer count state = baseline := by
  -- The state of such a source never changes.
  induction count with
  | zero => rfl
  | succ count ih => exact ih

namespace Trampoline

variable {ξ : Type}

/-- What the regions of a sequence of entries leave, one after the other. -/
def left (trampoline : Trampoline ξ) : List Entry → ξ → List RegisterFile
  | [], _ => []
  | entry :: rest, state =>
    let (after, state) := trampoline.enter entry.block entry.file state
    after :: trampoline.left rest state

/-- From two states on, regions compute the same in any two sequences of entries that differ in
nothing but flags that govern the processor. -/
def Alike (trampoline : Trampoline ξ) (state state' : ξ) : Prop :=
  ∀ entries entries' : List Entry,
    entries.map (fun entry => (entry.block, entry.file.shared)) =
      entries'.map (fun entry => (entry.block, entry.file.shared)) →
    (trampoline.left entries state).map RegisterFile.computed =
      (trampoline.left entries' state').map RegisterFile.computed

/-- Entering a block from related states, with register files that show the same and under flags
that may be mistaken for each other, computes the same and leads to related states. -/
def Keeps (trampoline : Trampoline ξ) (mistaken : Flags → Flags → Prop)
    (related : ξ → ξ → Prop) : Prop :=
  ∀ (state state' : ξ) (file file' : RegisterFile) (baseline baseline' : Flags)
    (block : LockedBlock), related state state' → mistaken baseline baseline' →
    file.shared = file'.shared →
    (trampoline.enter block (file.under baseline) state).1.computed =
        (trampoline.enter block (file'.under baseline') state').1.computed ∧
      related (trampoline.enter block (file.under baseline) state).2
        (trampoline.enter block (file'.under baseline') state').2

/-- Register files that show the same are the same under the same control bits, so no trampoline
can tell them apart. -/
theorem keeps_eq (trampoline : Trampoline ξ) :
    trampoline.Keeps Flags.SameControl Eq := by
  -- The trampoline is the same function of the same two arguments.
  intro state state' file file' baseline baseline' block same control alike
  subst same
  rw [RegisterFile.under_congr alike control]
  exact ⟨rfl, rfl⟩

/-- A trampoline that is alike from two states is so after entries that show the same. -/
theorem keeps_alike (trampoline : Trampoline ξ) :
    trampoline.Keeps (fun _ _ => True) trampoline.Alike := by
  -- Being alike speaks of all sequences of entries, so one entry more is one of them.
  intro state state' file file' baseline baseline' block related _ alike
  have shows (file : RegisterFile) (baseline : Flags) (rest : List Entry) :
      ((⟨block, file.under baseline⟩ :: rest : List Entry).map
        fun entry => (entry.block, entry.file.shared)) =
      (block, file.shared) :: rest.map fun entry => (entry.block, entry.file.shared) := by
    simp [RegisterFile.shared_under]
  constructor
  · -- The one entry is a sequence by itself.
    have first := related [⟨block, file.under baseline⟩] [⟨block, file'.under baseline'⟩]
      (by rw [shows, shows, alike])
    simpa [left] using first
  · -- Whatever follows the entry is a sequence together with it.
    intro entries entries' same
    have longer := related (⟨block, file.under baseline⟩ :: entries)
      (⟨block, file'.under baseline'⟩ :: entries') (by rw [shows, shows, alike, same])
    simp only [left, List.map_cons, List.cons.injEq] at longer
    exact longer.2

end Trampoline

namespace Invoker

variable {ξ φ ψ : Type}

/-- Runs register files one after the other. -/
def invokeAll (invoker : Invoker ξ φ) (table : RegionTable) :
    List RegisterFile → State ξ φ → List (Except InvokeError RegisterFile) × State ξ φ
  | [], state => ([], state)
  | file :: rest, state =>
    let (outcome, state) := invoker.invoke table file state
    let (outcomes, state) := invoker.invokeAll table rest state
    (outcome :: outcomes, state)

/-- What running a register file comes to, in terms of what crosses. -/
theorem invoke_eq (invoker : Invoker ξ φ) {table : RegionTable} {file : RegisterFile}
    {region : Region} (found : table.regions[file.token.toNat]? = some region)
    (state : State ξ φ) :
    invoker.invoke table file state =
      let (baseline, flags) := invoker.flags.read state.flags
      let (left, trampoline) :=
        invoker.trampoline.enter region.block (file.under baseline) state.trampoline
      (.ok (file.answered left), ⟨trampoline, flags⟩) := by
  -- Both sides name the same steps.
  rw [invoke_of_region invoker found]
  rfl

/-- Two invokers whose trampolines stand in related states, and whose flags will always be such as
may be mistaken for each other. -/
structure Matched (mistaken : Flags → Flags → Prop) (related : ξ → ξ → Prop) (one : FlagSource φ)
    (other : FlagSource ψ) (state : State ξ φ) (state' : State ξ ψ) : Prop where
  trampoline : related state.trampoline state'.trampoline
  flags (count : Nat) : mistaken (one.answer count state.flags) (other.answer count state'.flags)

/-- Running register files that show the same on matched invokers gives answers that show the same,
and the invokers stay matched. -/
theorem Matched.invoke {mistaken : Flags → Flags → Prop} {related : ξ → ξ → Prop}
    {one : FlagSource φ} {other : FlagSource ψ} {state : State ξ φ} {state' : State ξ ψ}
    (matched : Matched mistaken related one other state state') {trampoline : Trampoline ξ}
    (keeps : trampoline.Keeps mistaken related) (table : RegionTable)
    {file file' : RegisterFile} (alike : file.shared = file'.shared) :
    (((Invoker.mk trampoline one).invoke table file state).1.map RegisterFile.shared =
      ((Invoker.mk trampoline other).invoke table file' state').1.map RegisterFile.shared) ∧
    Matched mistaken related one other ((Invoker.mk trampoline one).invoke table file state).2
      ((Invoker.mk trampoline other).invoke table file' state').2 := by
  -- The token is shown, so the same region is looked up in both runs.
  have token := RegisterFile.token_eq_of_shared alike
  cases found : table.regions[file.token.toNat]? with
  | none =>
    -- No region stands there in either run, so nothing moves.
    have found' := token ▸ found
    rw [invoke_of_outside found, invoke_of_outside found', token]
    exact ⟨rfl, matched⟩
  -- Both enter the region, which keeps them related and makes answers that show the same.
  | some region =>
    have found' := token ▸ found
    obtain ⟨computed, after⟩ :=
      keeps _ _ _ _ _ _ region.block matched.trampoline (matched.flags 0) alike
    rw [invoke_eq _ found, invoke_eq _ found']
    refine ⟨?_, after, fun count => matched.flags (count + 1)⟩
    show Except.ok (RegisterFile.shared _) = Except.ok (RegisterFile.shared _)
    rw [RegisterFile.shared_answered, RegisterFile.shared_answered, token]
    exact congrArg (fun left : RegisterFile => Except.ok { left with token := file'.token })
      computed

/-- So it is with any number of register files. -/
theorem Matched.invokeAll {mistaken : Flags → Flags → Prop} {related : ξ → ξ → Prop}
    {one : FlagSource φ} {other : FlagSource ψ} {state : State ξ φ} {state' : State ξ ψ}
    (matched : Matched mistaken related one other state state') {trampoline : Trampoline ξ}
    (keeps : trampoline.Keeps mistaken related) (table : RegionTable)
    {files files' : List RegisterFile}
    (alike : files.map RegisterFile.shared = files'.map RegisterFile.shared) :
    ((Invoker.mk trampoline one).invokeAll table files state).1.map (·.map RegisterFile.shared) =
        ((Invoker.mk trampoline other).invokeAll table files' state').1.map
          (·.map RegisterFile.shared) ∧
      Matched mistaken related one other ((Invoker.mk trampoline one).invokeAll table files state).2
        ((Invoker.mk trampoline other).invokeAll table files' state').2 := by
  -- The induction goes along both sequences at once, with the states left open.
  induction files generalizing files' state state' with
  | nil =>
    cases files' with
    | nil => exact ⟨rfl, matched⟩
    | cons file' rest' => cases alike
  | cons file rest ih =>
    cases files' with
    | nil => cases alike
    | cons file' rest' =>
      simp only [List.map_cons, List.cons.injEq] at alike
      obtain ⟨first, later⟩ := alike
      obtain ⟨shown, matched⟩ := matched.invoke keeps table first
      obtain ⟨shownLater, matched⟩ := ih matched later
      simp only [Invoker.invokeAll, List.map_cons]
      exact ⟨by rw [shown, shownLater], matched⟩

/-- An answer has the control bits that its request had. -/
def Echoed (file : RegisterFile) : Except InvokeError RegisterFile → Prop
  | .ok answer => Flags.nonStatus ⟨answer.rflags⟩ = Flags.nonStatus ⟨file.rflags⟩
  | .error _ => True

/-- Whatever a region leaves, the client gets its own control bits back. -/
theorem echoed_invoke (invoker : Invoker ξ φ) (table : RegionTable) (file : RegisterFile)
    (state : State ξ φ) : Echoed file (invoker.invoke table file state).1 := by
  -- Without a region there is no answer to echo in.
  cases found : table.regions[file.token.toNat]? with
  | none =>
    rw [invoke_of_outside found]
    trivial
  | some region =>
    rw [invoke_eq _ found]
    exact RegisterFile.nonStatus_answered _ _

/-- Every client in a sequence gets its own control bits back. -/
theorem echoed_invokeAll (invoker : Invoker ξ φ) (table : RegionTable) (files : List RegisterFile)
    (state : State ξ φ) : List.Forall₂ Echoed files (invoker.invokeAll table files state).1 := by
  -- Induction on the requests, each of which starts where the ones before it stopped.
  induction files generalizing state with
  | nil => exact .nil
  | cons file rest ih =>
    simp only [invokeAll]
    exact .cons (invoker.echoed_invoke table file state) (ih _)

/-- Outcomes of the same requests that show the same are the same. -/
theorem eq_of_echoed {files : List RegisterFile}
    {outcomes outcomes' : List (Except InvokeError RegisterFile)}
    (echoed : List.Forall₂ Echoed files outcomes) (echoed' : List.Forall₂ Echoed files outcomes')
    (alike : outcomes.map (·.map RegisterFile.shared) =
      outcomes'.map (·.map RegisterFile.shared)) : outcomes = outcomes' := by
  -- The induction goes along the requests, which both lists of outcomes follow.
  induction echoed generalizing outcomes' with
  | nil =>
    cases echoed'
    rfl
  | @cons file outcome rest later echo _ ih =>
    cases echoed' with
    | @cons _ outcome' _ later' echo' echoes' =>
      simp only [List.map_cons, List.cons.injEq] at alike
      rw [ih echoes' alike.2]
      congr 1
      cases outcome with
      | error error =>
        cases outcome' with
        | error error' => exact congrArg Except.error (Except.error.inj alike.1)
        | ok answer' => cases alike.1
      | ok answer =>
        cases outcome' with
        | error error' => cases alike.1
        | ok answer' =>
          -- Both answers have the control bits of the one request.
          have control := Eq.trans echo (Eq.symm echo')
          exact congrArg Except.ok (RegisterFile.eq_of_shared (Except.ok.inj alike.1) control)

/-- Noting the entries of a sequence changes nothing else. -/
theorem invokeAll_recorded (invoker : Invoker ξ φ) (table : RegionTable)
    (files : List RegisterFile) (state : State ξ φ) (entries : List Entry) :
    ∃ made, invoker.recorded.invokeAll table files (state.recording entries) =
      ((invoker.invokeAll table files state).1,
        (invoker.invokeAll table files state).2.recording (entries ++ made)) := by
  -- Induction on the requests, with the entries that were noted before.
  induction files generalizing state entries with
  | nil => exact ⟨[], by simp [invokeAll]⟩
  | cons file rest ih =>
    obtain ⟨made, noted⟩ := ih (invoker.invoke table file state).2
      (entries ++ (invoker.entered? table file state).toList)
    exact ⟨(invoker.entered? table file state).toList ++ made, by
      simp [invokeAll, invoke_recorded, noted]⟩

/-- What comes of a sequence of requests to an invoker that is new: the outcomes, the state that the
regions are left in, and the entries made. -/
def serve (invoker : Invoker ξ φ) (table : RegionTable) (start : ξ) (flags : φ)
    (files : List RegisterFile) : List (Except InvokeError RegisterFile) × ξ × List Entry :=
  let (outcomes, state) :=
    invoker.recorded.invokeAll table files (State.recording ⟨start, flags⟩ [])
  (outcomes, state.trampoline)

/-- What the two sides of an invoker can learn of each other's flags, over any number of requests.

A region may do whatever it likes with everything it has been loaded with so far, and the server
may read other flags at each request. -/
structure Confined (trampoline : Trampoline ξ) (table : RegionTable) (start : ξ)
    (one : FlagSource φ) (flags : φ) (other : FlagSource ψ) (flags' : ψ) : Prop where
  /-- The regions do not learn the control bits of the clients. Requests that differ in nothing
  else make the same entries with the same register files, leave the regions in the same state, and
  the answers to them differ in nothing but control bits. -/
  clients {files files' : List RegisterFile}
    (alike : files.map RegisterFile.shared = files'.map RegisterFile.shared) :
    (serve ⟨trampoline, one⟩ table start flags files).2 =
        (serve ⟨trampoline, one⟩ table start flags files').2 ∧
      (serve ⟨trampoline, one⟩ table start flags files).1.map (·.map RegisterFile.shared) =
        (serve ⟨trampoline, one⟩ table start flags files').1.map (·.map RegisterFile.shared)
  /-- These bits are in every answer those of its own request. -/
  echoes (files : List RegisterFile) :
    List.Forall₂ Echoed files (serve ⟨trampoline, one⟩ table start flags files).1
  /-- Nobody learns the status bits of the server. Servers that never differ in anything else make
  the same entries with the same register files and give the same answers. -/
  servers (control : ∀ count, (one.answer count flags).SameControl (other.answer count flags'))
    (files : List RegisterFile) :
    serve ⟨trampoline, one⟩ table start flags files =
      serve ⟨trampoline, other⟩ table start flags' files
  /-- The clients learn no flags of the server from regions that make nothing of control bits. -/
  regions (ignored : trampoline.Alike start start) (files : List RegisterFile) :
    (serve ⟨trampoline, one⟩ table start flags files).1 =
      (serve ⟨trampoline, other⟩ table start flags' files).1

/-- Over whole sequences, with regions that remember them, nothing but status bits crosses between
clients and regions, and no flag of the server reaches a client but by way of its regions. -/
theorem noninterference (trampoline : Trampoline ξ) (table : RegionTable) (start : ξ)
    (one : FlagSource φ) (flags : φ) (other : FlagSource ψ) (flags' : ψ) :
    Confined trampoline table start one flags other flags' where
  clients {files files'} alike := by
    have matched : Matched Flags.SameControl Eq one one
        (State.recording ⟨start, flags⟩ []) (State.recording ⟨start, flags⟩ []) :=
      ⟨rfl, fun _ => rfl⟩
    obtain ⟨shown, after⟩ := matched.invokeAll trampoline.recorded.keeps_eq table alike
    exact ⟨after.trampoline, shown⟩
  echoes files := echoed_invokeAll _ table files _
  servers control files := by
    have matched : Matched Flags.SameControl Eq one other
        (State.recording ⟨start, flags⟩ []) (State.recording ⟨start, flags'⟩ []) :=
      ⟨rfl, control⟩
    obtain ⟨shown, after⟩ :=
      matched.invokeAll trampoline.recorded.keeps_eq table (Eq.refl (files.map _))
    -- The requests are the same, so their own control bits are too.
    have outcomes :=
      eq_of_echoed (echoed_invokeAll _ table files _) (echoed_invokeAll _ table files _) shown
    exact Prod.ext outcomes after.trampoline
  regions ignored files := by
    have matched : Matched (fun _ _ => True) trampoline.Alike one other ⟨start, flags⟩
        ⟨start, flags'⟩ := ⟨ignored, fun _ => trivial⟩
    obtain ⟨shown, -⟩ := matched.invokeAll trampoline.keeps_alike table (Eq.refl (files.map _))
    -- What was noted differs, but not what it was noted of.
    obtain ⟨made, noted⟩ := invokeAll_recorded ⟨trampoline, one⟩ table files ⟨start, flags⟩ []
    obtain ⟨made', noted'⟩ := invokeAll_recorded ⟨trampoline, other⟩ table files ⟨start, flags'⟩ []
    rw [serve, serve, noted, noted']
    exact eq_of_echoed (echoed_invokeAll _ table files _) (echoed_invokeAll _ table files _) shown

/-- Regions that add to `rax` how often any of them was entered before. -/
def counting : Trampoline UInt64 where
  enter _ file count := ({ file with rax := file.rax + count }, count + 1)

/-- Counting goes by the entries alone. -/
theorem counting_alike (count : UInt64) : counting.Alike count count := by
  -- Induction on the entries, with the count that has been reached as the state.
  intro entries entries' same
  induction entries generalizing entries' count with
  | nil =>
    cases entries' with
    | nil => rfl
    | cons entry' rest' => cases same
  | cons entry rest ih =>
    cases entries' with
    | nil => cases same
    | cons entry' rest' =>
      simp only [List.map_cons, List.cons.injEq, Prod.mk.injEq] at same
      obtain ⟨⟨-, alike⟩, later⟩ := same
      have first : RegisterFile.computed { entry.file with rax := entry.file.rax + count } =
          RegisterFile.computed { entry'.file with rax := entry'.file.rax + count } :=
        congrArg (fun file : RegisterFile => { file with rax := file.rax + count, token := 0 })
          alike
      exact List.cons_eq_cons.mpr ⟨first, ih (count + 1) rest' later⟩

/-- Two requests that swap their trap and direction flags, over servers whose flags differ in the
carry bit, and over servers whose flags differ in the interrupt bit. -/
theorem noninterference_of_counting :
    let trapping : RegisterFile := { rax := 7, rflags := 0x101 }
    let backward : RegisterFile := { rax := 7, rflags := 0x401 }
    let served (baseline : UInt64) :=
      serve ⟨counting, .fixed ⟨baseline⟩⟩ ⟨[default]⟩ 0 ()
    ([trapping, backward].map RegisterFile.shared = [backward, trapping].map RegisterFile.shared ∧
        (served 0x202 [trapping, backward]).2 = (served 0x202 [backward, trapping]).2) ∧
      (Flags.SameControl ⟨0x202⟩ ⟨0x203⟩ ∧
        served 0x202 [trapping, backward] = served 0x203 [trapping, backward]) ∧
      (served 0x202 [trapping, backward]).1 = (served 0x002 [trapping, backward]).1 := by
  -- The theorem is applied to two servers that differ in the carry, and two in the interrupt bit.
  intro trapping backward served
  have carry := noninterference counting ⟨[default]⟩ 0
    (.fixed ⟨0x202⟩) () (.fixed ⟨0x203⟩) ()
  have interrupt := noninterference counting ⟨[default]⟩ 0
    (.fixed ⟨0x202⟩) () (.fixed ⟨0x002⟩) ()
  have alike : [trapping, backward].map RegisterFile.shared =
      [backward, trapping].map RegisterFile.shared := by decide
  have control : Flags.SameControl ⟨0x202⟩ ⟨0x203⟩ := by
    show _ = _
    decide
  exact ⟨⟨alike, (carry.clients alike).1⟩,
    ⟨control, carry.servers (fun count => by simpa only [FlagSource.answer_fixed] using control) _⟩,
    interrupt.regions (counting_alike 0) _⟩

end Invoker

end CallGate
