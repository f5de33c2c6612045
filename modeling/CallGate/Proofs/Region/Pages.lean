import CallGate.Region.PageMemory
import Mathlib.Algebra.Group.Nat.Defs
import Mathlib.Order.Bounds.Basic

/-! Blocks of executable memory lie within the pages that were mapped for them, whatever their
length, and so does everything the system is asked to lock or to take back. -/

namespace CallGate

/-- Clearing the lowest bits of a word leaves the multiple of their power below it. -/
theorem toNat_and_not (word mask : UInt64) {bits : Nat} (low : mask.toNat = 2 ^ bits - 1) :
    (word &&& ~~~mask).toNat = word.toNat / 2 ^ bits * 2 ^ bits := by
  -- The complement of the low bits is the word of ones without them, written as a difference.
  have small : 2 ^ bits - 1 < 2 ^ 64 := low ▸ mask.toNat_lt
  have cleared : UInt64.size - 1 - (2 ^ bits - 1) = 2 ^ 64 - (2 ^ bits - 1 + 1) := by
    simp only [UInt64.size]
    omega
  rw [UInt64.toNat_and, UInt64.toNat_not, low, cleared]
  -- Both sides have the bits of the word from there on, and none below.
  apply Nat.eq_of_testBit_eq
  intro place
  rw [Nat.testBit_and, Nat.testBit_two_pow_sub_succ small, Nat.testBit_two_pow_sub_one,
    Nat.testBit_mul_two_pow, Nat.testBit_div_two_pow]
  by_cases high : bits ≤ place
  · have same : place - bits + bits = place := Nat.sub_add_cancel high
    have kept : ¬place < bits := Nat.not_lt.mpr high
    rw [same]
    by_cases within : place < 64
    · simp [high, kept, within]
    · -- A word has no bits beyond its width.
      -- The bit is not cleared, so it is the word's own on both sides.
      have clear : word.toNat.testBit place = false := Nat.testBit_lt_two_pow
        (Nat.lt_of_lt_of_le word.toNat_lt (Nat.pow_le_pow_right (by omega) (by omega)))
      simp [clear]
  · have lost : place < bits := Nat.lt_of_not_le high
    simp [high, lost]

/-- Rounding up goes through the sum that a word keeps of the length and all but one of the bytes of
a page. -/
theorem toNat_alignUp (length page : UInt64) (power : page.toNat.isPowerOfTwo) :
    (alignUp length page).toNat =
      (length.toNat + (page.toNat - 1)) % 2 ^ 64 / page.toNat * page.toNat := by
  -- The mask of a page is its length less one, which is where the length being a power counts.
  obtain ⟨bits, pages⟩ := power
  have positive : 0 < page.toNat := by
    rw [pages]
    exact Nat.two_pow_pos bits
  have below := page.toNat_lt
  have mask : (page - 1).toNat = 2 ^ bits - 1 := by
    rw [UInt64.toNat_sub, ← pages, UInt64.toNat_one]
    omega
  -- Neither the sum nor the difference is kept as it is, but the remainder is the same.
  have sum : (length + page - 1).toNat = (length.toNat + (page.toNat - 1)) % 2 ^ 64 := by
    rw [UInt64.toNat_sub, UInt64.toNat_add, UInt64.toNat_one]
    omega
  rw [alignUp, toNat_and_not _ _ mask, sum, ← pages]

/-- Whole pages that hold so many bytes, and no page more than they take. -/
def WholePages (page length : Nat) (size : Nat) : Prop :=
  IsLeast {size | page ∣ size ∧ length ≤ size} size

/-- Rounding up yields the fewest whole pages, unless the sum is more than a word keeps. -/
theorem wholePages_alignUp {length page : UInt64} (power : page.toNat.isPowerOfTwo)
    (kept : length.toNat + (page.toNat - 1) < 2 ^ 64) :
    WholePages page.toNat length.toNat (alignUp length page).toNat := by
  -- The sum is kept, so the division that rounds up is that of the numbers themselves.
  have positive : 0 < page.toNat := Nat.pos_of_isPowerOfTwo power
  rw [toNat_alignUp length page power, Nat.mod_eq_of_lt kept]
  constructor
  · refine ⟨Nat.dvd_mul_left .., ?_⟩
    -- What is lost by the division is less than a page.
    have split := Nat.div_add_mod (length.toNat + (page.toNat - 1)) page.toNat
    have lost := Nat.mod_lt (length.toNat + (page.toNat - 1)) positive
    rw [Nat.mul_comm] at split
    omega
  -- Any other number of whole pages that holds the length is at least as large.
  · rintro size ⟨⟨count, rfl⟩, enough⟩
    -- Fewer pages than these would not hold the sum.
    have fewer : (length.toNat + (page.toNat - 1)) / page.toNat < count + 1 := by
      rw [Nat.div_lt_iff_lt_mul positive, Nat.add_mul, Nat.mul_comm count]
      omega
    rw [Nat.mul_comm page.toNat]
    exact Nat.mul_le_mul_right _ (Nat.le_of_lt_succ fewer)

/-- A sum that wraps around is less than a page, and rounds to nothing. -/
theorem alignUp_of_wrapped {length page : UInt64} (power : page.toNat.isPowerOfTwo)
    (wrapped : 2 ^ 64 ≤ length.toNat + (page.toNat - 1)) : alignUp length page = 0 := by
  -- Both summands are words, so a sum that wraps around does so once and leaves less than a page.
  have below := length.toNat_lt
  have small := page.toNat_lt
  have left : (length.toNat + (page.toNat - 1)) % 2 ^ 64 < page.toNat := by omega
  apply UInt64.toNat_inj.mp
  rw [toNat_alignUp length page power, Nat.div_eq_of_lt left, Nat.zero_mul, UInt64.toNat_zero]

/-- An address is one of so many bytes from another one on. -/
def Spans (base length address : UInt64) : Prop := (address - base).toNat < length.toNat

namespace PageSource

variable {σ : Type} {source : PageSource σ}

/-- A mapping that was made begins where the system says, and has as many bytes as it was asked
for. -/
theorem create_eq_ok {length : UInt64} {state after : σ} {mapping : Mapping}
    (created : source.create length state = (.ok mapping, after)) :
    mapping.base ≠ 0 ∧ mapping.length = length ∧
      mapping.mapped = alignUp length source.pageSize ∧
      source.map mapping.mapped state = (.ok mapping.base, after) := by
  -- There is no mapping without a length, without pages, or at the null address.
  unfold create at created
  split at created
  · cases created
  · simp only at created
    split at created
    · cases created
    · rename_i base inner asked
      split at created
      · cases created
      · rename_i placed
        cases created
        exact ⟨placed, rfl, rfl, asked⟩

/-- A length that cannot be rounded up comes down to a request for no pages at all. -/
theorem create_of_wrapped (power : source.pageSize.toNat.isPowerOfTwo)
    (refuses : ∀ state, ∃ cause, (source.map 0 state).1 = .error cause) {length : UInt64}
    (wrapped : 2 ^ 64 ≤ length.toNat + (source.pageSize.toNat - 1)) (state : σ) :
    ∃ cause, (source.create length state).1 = .error (.allocationFailed length.toNat cause) := by
  -- The length is not zero, since less than a page is not enough to wrap around.
  have below := source.pageSize.toNat_lt
  have nonempty : length ≠ 0 := by
    intro zero
    rw [zero, UInt64.toNat_zero] at wrapped
    omega
  obtain ⟨cause, refused⟩ := refuses state
  refine ⟨cause, ?_⟩
  rw [create, if_neg nonempty, alignUp_of_wrapped power wrapped]
  -- The request is for no pages, and the system refuses such a request.
  simp only
  split
  · rename_i asked
    rw [asked] at refused
    cases refused
    rfl
  · rename_i asked
    rw [asked] at refused
    cases refused

/-- Pages that were mapped are the fewest that hold the block, if nothing can be mapped in none. -/
theorem wholePages_of_create (power : source.pageSize.toNat.isPowerOfTwo)
    (refuses : ∀ state, ∃ cause, (source.map 0 state).1 = .error cause) {length : UInt64}
    {state after : σ} {mapping : Mapping}
    (created : source.create length state = (.ok mapping, after)) :
    WholePages source.pageSize.toNat length.toNat mapping.mapped.toNat := by
  -- The length either rounds up within a word, or comes to a request that is refused.
  rcases Nat.lt_or_ge (length.toNat + (source.pageSize.toNat - 1)) (2 ^ 64) with kept | wrapped
  · rw [(create_eq_ok created).2.2.1]
    exact wholePages_alignUp power kept
  · obtain ⟨cause, refused⟩ := create_of_wrapped power refuses wrapped state
    rw [created] at refused
    cases refused

/-- The mapping that a block was given out from. -/
def holding (source : PageSource σ) (block : WritableBlock) : Mapping :=
  source.holder block.address block.bytes.length

/-- A block that was allocated is as long as was asked for, and its mapping is told by where it
begins and how long it is. -/
theorem allocate_eq_ok {length : UInt64} {state after : σ} {block : WritableBlock}
    (allocated : source.memory.allocate length.toNat state = (.ok block, after)) :
    block.bytes.length = length.toNat ∧
      source.create length state = (.ok (source.holding block), after) := by
  -- The block starts where the mapping does and has its length, which leads back to the mapping.
  unfold memory at allocated
  simp only [UInt64.ofNat_toNat] at allocated
  split at allocated
  · cases allocated
  · rename_i mapping inner created
    cases allocated
    -- The pages are told by the length alone, so nothing of the mapping is lost in the block.
    obtain ⟨_, same, pages, _⟩ := create_eq_ok created
    have told : source.holding ⟨mapping.base.toNat, List.replicate mapping.length.toNat 0⟩ =
        mapping := by
      simp only [holding, holder, List.length_replicate, UInt64.ofNat_toNat, same, ← pages]
      rw [← same]
    exact ⟨by rw [List.length_replicate, same], by rw [told]; exact created⟩

/-- A block is locked by locking its mapping, from the first byte to the last. -/
theorem lock_eq_ok {block : WritableBlock} {locked : LockedBlock} {state after : σ}
    (done : source.memory.lock block state = (.ok locked, after)) :
    source.protect (source.holding block).base (source.holding block).mapped state =
      (.ok (), after) := by
  -- The lock is what the system was asked for, and it was granted or nothing is locked.
  simp only [memory, lock] at done
  split at done
  · cases done
  · rename_i same
    cases done
    split at same
    · cases same
    · rename_i asked
      cases same
      exact asked

/-- A block that cannot be locked is given up, and so is its mapping as a whole. -/
theorem lock_eq_error {block : WritableBlock} {error : MemoryError} {state after : σ}
    (failed : source.memory.lock block state = (.error error, after)) :
    ∃ cause middle, source.protect (source.holding block).base (source.holding block).mapped state =
        (.error cause, middle) ∧
      after = source.release (source.holding block) middle := by
  -- The system refused to protect the pages, and only then is the mapping given back.
  simp only [memory, lock] at failed
  split at failed
  · rename_i same
    cases failed
    split at same
    · rename_i cause middle asked
      cases same
      exact ⟨cause, middle, asked, rfl⟩
    · cases same
  · cases failed

end PageSource

/-- One thing a system did to pages. -/
inductive PageCall where
  /-- It mapped so many bytes, and this is where. -/
  | map (base length : UInt64)
  /-- It was asked to lock so many bytes from there on. -/
  | protect (base length : UInt64)
  /-- It took back so many bytes from there on. -/
  | unmap (base length : UInt64)

/-- What is mapped once these calls were made, as where it begins and how many bytes it has.
Whatever is locked or taken back is mapped at the time, from its first byte to its last. Pages at
the null address are nobody's. -/
inductive PageCall.Leaves : List PageCall → List (UInt64 × UInt64) → Prop
  | start : Leaves [] []
  | map {calls : List PageCall} {mapped : List (UInt64 × UInt64)} (so : Leaves calls mapped)
    {base : UInt64} (placed : base ≠ 0) (length : UInt64) :
    Leaves (calls ++ [.map base length]) (mapped ++ [(base, length)])
  | null {calls : List PageCall} {mapped : List (UInt64 × UInt64)} (so : Leaves calls mapped)
    (length : UInt64) : Leaves (calls ++ [.map 0 length]) mapped
  | protect {calls : List PageCall} {mapped : List (UInt64 × UInt64)} (so : Leaves calls mapped)
    {base length : UInt64} (held : (base, length) ∈ mapped) :
    Leaves (calls ++ [.protect base length]) mapped
  | unmap {calls : List PageCall} {before after : List (UInt64 × UInt64)} {base length : UInt64}
    (so : Leaves calls (before ++ (base, length) :: after)) :
    Leaves (calls ++ [.unmap base length]) (before ++ after)

/-- One thing that is done with executable memory. Blocks go by their places among those held. -/
inductive PageUse where
  | allocate (length : UInt64)
  /-- Writes to a block, within its bytes. -/
  | write (place start : Nat) (data : Bytes)
  | lock (place : Nat)
  | drop (place : Nat)

namespace PageSource

variable {σ : Type} {source : PageSource σ}

/-- The same system, keeping what it did to pages next to its own state. -/
def recorded (source : PageSource σ) : PageSource (σ × List PageCall) where
  reportedSize := source.reportedSize
  map length state :=
    match source.map length state.1 with
    | (.error cause, inner) => (.error cause, inner, state.2)
    | (.ok base, inner) => (.ok base, inner, state.2 ++ [.map base length])
  protect base length state :=
    let (outcome, inner) := source.protect base length state.1
    (outcome, inner, state.2 ++ [.protect base length])
  unmap base length state :=
    (source.unmap base length state.1, state.2 ++ [.unmap base length])

/-- The system and the blocks that are held after one more use. A block that cannot be locked is
gone, and so is one that is dropped. -/
def use (source : PageSource σ) (run : σ × List WritableBlock) : PageUse → σ × List WritableBlock
  | .allocate length =>
    match source.memory.allocate length.toNat run.1 with
    | (.error _, state) => (state, run.2)
    | (.ok block, state) => (state, run.2 ++ [block])
  | .write place start data =>
    match run.2[place]? with
    | none => run
    | some block =>
      if start + data.length ≤ block.bytes.length then
        (run.1, run.2.set place (block.write start data))
      else run
  | .lock place =>
    match run.2[place]? with
    | none => run
    | some block =>
      match source.memory.lock block run.1 with
      | (.error _, state) => (state, run.2.eraseIdx place)
      | (.ok _, state) => (state, run.2)
  | .drop place =>
    match run.2[place]? with
    | none => run
    | some block => (source.release (source.holding block) run.1, run.2.eraseIdx place)

/-- Where the pages of a block begin, and how many bytes they have. -/
def extent (source : PageSource σ) (block : WritableBlock) : UInt64 × UInt64 :=
  ((source.holding block).base, (source.holding block).mapped)

/-- What is mapped is what the blocks that are held lie in, in the fewest pages for their bytes. -/
structure Orderly (source : PageSource σ) (run : (σ × List PageCall) × List WritableBlock) :
    Prop where
  leaves : PageCall.Leaves run.1.2 (run.2.map source.extent)
  pages : ∀ block ∈ run.2, WholePages source.pageSize.toNat block.bytes.length
    (source.holding block).mapped.toNat

/-- Writing within a block neither moves it nor changes its length. -/
theorem holding_write (source : PageSource σ) {block : WritableBlock} {start : Nat} {data : Bytes}
    (within : start + data.length ≤ block.bytes.length) :
    (block.write start data).bytes.length = block.bytes.length ∧
      source.holding (block.write start data) = source.holding block := by
  -- The bytes before and behind the data stay, and the data takes the place of as many.
  have same : (block.write start data).bytes.length = block.bytes.length := by
    simp only [WritableBlock.write, List.length_append, List.length_take, List.length_drop]
    omega
  exact ⟨same, by rw [holding, same]; rfl⟩

/-- Pages that were mapped are recorded. -/
theorem calls_of_map {length base : UInt64} {state after : σ × List PageCall}
    (mapped : source.recorded.map length state = (.ok base, after)) :
    after.2 = state.2 ++ [.map base length] := by
  -- A mapping that is refused is not recorded, so there was one.
  simp only [recorded] at mapped
  split at mapped <;> cases mapped
  rfl

/-- Nothing is recorded of a request that was refused, and one that comes to no mapping for any
other reason is recorded at the null address. -/
theorem calls_of_refused {length : UInt64} {state after : σ × List PageCall} {error : MemoryError}
    (refused : source.recorded.create length state = (.error error, after)) :
    after.2 = state.2 ∨ ∃ pages, after.2 = state.2 ++ [.map 0 pages] := by
  -- There are three ways to be refused: a length of zero, the system, and the null address.
  unfold create at refused
  split at refused
  · cases refused
    exact .inl rfl
  · simp only at refused
    split at refused
    -- The system refused, and what it refuses is not recorded.
    · rename_i asked
      cases refused
      simp only [recorded] at asked
      split at asked <;> cases asked
      exact .inl rfl
    -- The system mapped pages at the null address, which no block is made of.
    · rename_i base inner asked
      split at refused
      · rename_i null
        cases refused
        rw [null] at asked
        exact .inr ⟨_, calls_of_map asked⟩
      · cases refused

/-- The recorded system refuses what the system does. -/
theorem recorded_refuses (refuses : ∀ state, ∃ cause, (source.map 0 state).1 = .error cause)
    (state : σ × List PageCall) : ∃ cause, (source.recorded.map 0 state).1 = .error cause := by
  -- Recording does not change what the system answers.
  obtain ⟨cause, refused⟩ := refuses state.1
  refine ⟨cause, ?_⟩
  simp only [recorded]
  split
  · rename_i asked
    rw [asked] at refused
    exact refused
  · rename_i asked
    rw [asked] at refused
    cases refused

/-- A block that cannot be allocated is refused by the system. -/
theorem allocate_eq_error {length : UInt64} {state after : σ} {error : MemoryError}
    (refused : source.memory.allocate length.toNat state = (.error error, after)) :
    source.create length state = (.error error, after) := by
  -- A block is allocated by a mapping, and nothing else can fail.
  simp only [memory, UInt64.ofNat_toNat] at refused
  split at refused
  · rename_i same
    cases refused
    exact same
  · cases refused

variable {run : (σ × List PageCall) × List WritableBlock}

/-- An allocation maps the pages of the block it gives out, or leaves nothing that is held. -/
theorem Orderly.allocate (power : source.pageSize.toNat.isPowerOfTwo)
    (refuses : ∀ state, ∃ cause, (source.map 0 state).1 = .error cause)
    (orderly : source.Orderly run) (length : UInt64) :
    source.Orderly (source.recorded.use run (.allocate length)) := by
  -- The allocation is refused, with the blocks as they were, or it adds one block at the end.
  have power : source.recorded.pageSize.toNat.isPowerOfTwo := power
  rw [use]
  split
  -- Nothing is held that was not before, and at most a mapping at the null address was left behind.
  · rename_i state refused
    refine ⟨?_, orderly.pages⟩
    rcases calls_of_refused (allocate_eq_error refused) with same | ⟨pages, null⟩
    · rw [same]
      exact orderly.leaves
    · rw [null]
      exact .null orderly.leaves pages
  · rename_i block state allocated
    obtain ⟨long, created⟩ := allocate_eq_ok allocated
    obtain ⟨placed, _, _, asked⟩ := create_eq_ok created
    constructor
    · -- The new block comes behind those that were held, and so do its pages.
      rw [calls_of_map asked, List.map_append]
      exact .map orderly.leaves placed _
    · intro held member
      rcases List.mem_append.mp member with old | new
      · exact orderly.pages held old
      · rw [List.mem_singleton.mp new, long]
        exact wholePages_of_create power (recorded_refuses refuses) created

/-- A request to lock pages is recorded, whatever the system says to it. -/
theorem calls_of_protect {base length : UInt64} {state after : σ × List PageCall}
    {outcome : Except IoError Unit}
    (asked : source.recorded.protect base length state = (outcome, after)) :
    after.2 = state.2 ++ [.protect base length] :=
  (congrArg (·.2.2) asked).symm

/-- The value that a place names stands between those before it and those behind it. -/
theorem exists_eq_append {α : Type} {held : List α} {place : Nat} {value : α}
    (named : held[place]? = some value) :
    ∃ before after, held = before ++ value :: after ∧ held.eraseIdx place = before ++ after ∧
      ∀ other, held.set place other = before ++ other :: after := by
  -- The list is cut at the place, on either side of the value that stands there.
  obtain ⟨within, same⟩ := List.getElem?_eq_some_iff.mp named
  refine ⟨held.take place, held.drop (place + 1), ?_, List.eraseIdx_eq_take_drop_succ .., ?_⟩
  · rw [← same, ← List.drop_eq_getElem_cons within, List.take_append_drop]
  · intro other
    rw [List.set_eq_take_append_cons_drop, if_pos within]

/-- Writing within a block is nothing to the system. -/
theorem Orderly.write (orderly : source.Orderly run) (place start : Nat) (data : Bytes) :
    source.Orderly (source.recorded.use run (.write place start data)) := by
  -- There is no such block, the data does not fit it, or its bytes change where they are.
  rw [use]
  split
  · exact orderly
  · rename_i block named
    split
    · rename_i within
      obtain ⟨long, same⟩ := holding_write source within
      obtain ⟨before, after, whole, _, replaced⟩ := exists_eq_append named
      constructor
      · -- The block is in the same pages as before.
        have mapped : (run.2.set place (block.write start data)).map source.extent =
            run.2.map source.extent := by
          rw [replaced, whole, List.map_append, List.map_append, List.map_cons, List.map_cons,
            extent, same, ← extent]
        rw [mapped]
        exact orderly.leaves
      -- The other blocks are as they were, and this one has the length it had.
      · intro held member
        rcases List.mem_or_eq_of_mem_set member with old | new
        · exact orderly.pages held old
        · rw [new, same, long]
          exact orderly.pages block (List.mem_of_getElem? named)
    · exact orderly

/-- A block that is given up leaves all others as they are, and its pages are mapped no more. -/
theorem Orderly.removed (orderly : source.Orderly run) {place : Nat} {block : WritableBlock}
    (named : run.2[place]? = some block) {after : σ × List PageCall}
    (calls : PageCall.Leaves after.2 (run.2.map source.extent)) :
    source.Orderly
      (source.recorded.release (source.holding block) after, run.2.eraseIdx place) := by
  -- The list of blocks is cut at the one that goes, and so is the list of their pages.
  obtain ⟨before, behind, whole, left, _⟩ := exists_eq_append named
  constructor
  · rw [whole, List.map_append, List.map_cons] at calls
    simp only [left, List.map_append]
    exact .unmap calls
  -- What is left was held before.
  · intro held member
    exact orderly.pages held (List.mem_of_mem_eraseIdx member)

/-- A block that is locked stays held, and one that cannot be is given up. -/
theorem Orderly.lock (orderly : source.Orderly run) (place : Nat) :
    source.Orderly (source.recorded.use run (.lock place)) := by
  -- There is no such block, or the system is asked for its pages, which are mapped.
  rw [use]
  split
  · exact orderly
  · rename_i block named
    have held : source.extent block ∈ run.2.map source.extent :=
      List.mem_map_of_mem (List.mem_of_getElem? named)
    split
    -- The system refused, and the block goes with its pages.
    · rename_i state failed
      obtain ⟨cause, middle, asked, rfl⟩ := lock_eq_error failed
      refine orderly.removed named ?_
      rw [calls_of_protect asked]
      exact .protect orderly.leaves held
    -- The system granted it, and the same blocks are held as before.
    · rename_i state done
      refine ⟨?_, orderly.pages⟩
      rw [calls_of_protect (lock_eq_ok done)]
      exact .protect orderly.leaves held

/-- A block that is dropped is given up. -/
theorem Orderly.drop (orderly : source.Orderly run) (place : Nat) :
    source.Orderly (source.recorded.use run (.drop place)) := by
  -- There is no such block, or it goes with its pages.
  rw [use]
  split
  · exact orderly
  · rename_i block named
    exact orderly.removed named orderly.leaves

/-- Whatever is done with memory, what is mapped is what is held. -/
theorem orderly_uses (power : source.pageSize.toNat.isPowerOfTwo)
    (refuses : ∀ state, ∃ cause, (source.map 0 state).1 = .error cause) (uses : List PageUse)
    (orderly : source.Orderly run) : source.Orderly (uses.foldl source.recorded.use run) := by
  -- Induction on the uses, with the order between what is mapped and what is held as invariant.
  -- One use at a time, each of its own kind.
  induction uses generalizing run with
  | nil => exact orderly
  | cons next rest ih =>
    rw [List.foldl_cons]
    apply ih
    cases next with
    | allocate length => exact orderly.allocate power refuses length
    | write place start data => exact orderly.write place start data
    | lock place => exact orderly.lock place
    | drop place => exact orderly.drop place

/-- Whatever length is asked for, on a system that maps nothing in no pages. A block that is given
out has as many bytes, and lies in the fewest whole pages that hold them, which were mapped for it.
A length that cannot be rounded up within a word is refused. And whatever is done with blocks, the
system is asked to lock or to take back only what is mapped at the time, from its first byte to its
last, and what is mapped is what the blocks that are held lie in. -/
theorem blocks_within_pages (source : PageSource σ) (power : source.pageSize.toNat.isPowerOfTwo)
    (refuses : ∀ state, ∃ cause, (source.map 0 state).1 = .error cause) :
    (∀ (length : UInt64) (state : σ) (block : WritableBlock) (after : σ),
      source.memory.allocate length.toNat state = (.ok block, after) →
        block.bytes.length = length.toNat ∧
        source.map (source.holding block).mapped state = (.ok (source.holding block).base, after) ∧
        WholePages source.pageSize.toNat length.toNat (source.holding block).mapped.toNat ∧
        ∀ address, Spans (source.holding block).base length address →
          Spans (source.holding block).base (source.holding block).mapped address) ∧
    (∀ (length : UInt64) (state : σ),
      2 ^ 64 ≤ length.toNat + (source.pageSize.toNat - 1) → ∃ cause,
        (source.memory.allocate length.toNat state).1 =
          .error (.allocationFailed length.toNat cause)) ∧
    ∀ (uses : List PageUse) (state : σ),
      source.Orderly (uses.foldl source.recorded.use ((state, []), [])) := by
  -- The block, the refusal of what wraps around, and the order over any run.
  refine ⟨?_, ?_, ?_⟩
  · intro length state block after allocated
    obtain ⟨long, created⟩ := allocate_eq_ok allocated
    obtain ⟨_, _, _, asked⟩ := create_eq_ok created
    have pages := wholePages_of_create power refuses created
    -- The pages are no shorter than the block, so its bytes are among theirs.
    have enough : length.toNat ≤ (source.holding block).mapped.toNat := pages.1.2
    refine ⟨long, asked, pages, ?_⟩
    intro address inside
    exact Nat.lt_of_lt_of_le inside enough
  -- The request comes down to no pages at all, which are never mapped.
  · intro length state wrapped
    obtain ⟨cause, refused⟩ := create_of_wrapped power refuses wrapped state
    refine ⟨cause, ?_⟩
    simp only [memory, UInt64.ofNat_toNat]
    split
    · rename_i same
      rw [same] at refused
      exact congrArg Except.error (Except.error.inj refused)
    · rename_i same
      rw [same] at refused
      cases refused
  -- At first nothing is mapped and nothing is held.
  · intro uses state
    have nothing : source.Orderly ((state, []), []) :=
      ⟨.start, fun block member => absurd member List.not_mem_nil⟩
    exact orderly_uses power refuses uses nothing

/-- Five bytes take one page of the usual size, and the largest length there is takes none. -/
theorem blocks_within_pages_of_five :
    let source := standard
    let block : WritableBlock := ⟨4096, [0, 0, 0, 0, 0]⟩
    source.pageSize.toNat.isPowerOfTwo ∧
      (∀ state, ∃ cause, (source.map 0 state).1 = .error cause) ∧
      source.memory.allocate (5 : UInt64).toNat 0 = (.ok block, 4096) ∧
      WholePages 4096 5 (source.holding block).mapped.toNat ∧
      (source.holding block).mapped = 4096 ∧
      (∃ cause, (source.memory.allocate (0xFFFFFFFFFFFFFFFF : UInt64).toNat 0).1 =
        .error (.allocationFailed 0xFFFFFFFFFFFFFFFF cause)) ∧
      source.Orderly ([.allocate 5, .write 0 4 [0xC3], .lock 0, .drop 0].foldl
        source.recorded.use ((0, []), [])) := by
  -- The system of this example refuses to map nothing, as it must.
  intro source block
  have power : source.pageSize.toNat.isPowerOfTwo := ⟨12, by decide⟩
  have refuses (state : Nat) : ∃ cause, (source.map 0 state).1 = .error cause :=
    ⟨.invalidArgument, rfl⟩
  obtain ⟨given, wrapped, orderly⟩ := blocks_within_pages source power refuses
  have allocated : source.memory.allocate (5 : UInt64).toNat 0 = (.ok block, 4096) := by decide
  obtain ⟨_, _, pages, _⟩ := given 5 0 block 4096 allocated
  exact ⟨power, refuses, allocated, pages, by decide, wrapped 0xFFFFFFFFFFFFFFFF 0 (by decide),
    orderly _ 0⟩

end PageSource

end CallGate
