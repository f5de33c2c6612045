import CallGate.Proofs.Machine.Calling

/-! One layout of the register file serves everywhere: for its registers one by one, for its bytes
on the wire, and for the routine that exchanges it with the processor. -/

namespace CallGate

namespace Slot

/-- In layout order, a slot stands behind as many others as its place says, and nowhere else. -/
theorem all_split (slot : Slot) : ∃ before after, all = before ++ slot :: after ∧
    before.length = slot.place ∧ slot ∉ before ∧ slot ∉ after := by
  have once : all.Nodup := by decide
  -- The slot stands at its own place, and a list without repetitions has it nowhere else.
  obtain ⟨early, here⟩ := List.getElem?_eq_some_iff.mp slot.all_place
  have cut : all = all.take slot.place ++ slot :: all.drop (slot.place + 1) := by
    have tail : all.drop slot.place = slot :: all.drop (slot.place + 1) := by
      rw [List.drop_eq_getElem_cons early, here]
    rw [← tail, List.take_append_drop]
  rw [cut, List.nodup_append] at once
  obtain ⟨_, rest, apart⟩ := once
  exact ⟨_, _, cut, List.length_take_of_le (Nat.le_of_lt early),
    fun listed => apart slot listed slot List.mem_cons_self rfl, (List.nodup_cons.mp rest).1⟩

end Slot

namespace RegisterFile

/-- Writing a slot supplies its word anew and keeps all others. -/
theorem write_eq_ofSlots (file : RegisterFile) (slot : Slot) (value : UInt64) :
    file.write slot value =
      ofSlots fun other => if other = slot then value else file.read other := by
  -- Each of the fifteen registers has an update of its own.
  cases slot with
  | general register => cases register <;> rfl
  | flags => rfl
  | token => rfl

/-- A slot that was written holds the word, and all others hold what they held. -/
theorem read_write (file : RegisterFile) (slot other : Slot) (value : UInt64) :
    (file.write slot value).read other = if other = slot then value else file.read other := by
  -- A word is read back as it was supplied.
  rw [write_eq_ofSlots, read_ofSlots]

/-- The last word written to a slot counts. -/
theorem write_write (file : RegisterFile) (slot : Slot) (value later : UInt64) :
    (file.write slot value).write slot later = file.write slot later := by
  -- Two files are the same when they hold the same word in every slot.
  apply eq_of_read
  intro other
  by_cases same : other = slot <;> simp [read_write, same]

/-- Different slots can be written in either order. -/
theorem write_comm (file : RegisterFile) {slot other : Slot} (different : other ≠ slot)
    (value later : UInt64) :
    (file.write slot value).write other later = (file.write other later).write slot value := by
  -- Every slot holds the later word, the earlier one or the old one on both sides alike.
  apply eq_of_read
  intro read
  by_cases same : read = slot
  · subst same
    simp [read_write, Ne.symm different]
  · simp [read_write, same]

/-- The bytes of a register file with the word in one slot replaced differ in the eight bytes of
the slot. -/
theorem toBytes_write (file : RegisterFile) (slot : Slot) (value : UInt64) :
    (file.write slot value).toBytes.toList =
      file.toBytes.toList.take slot.offset ++ Bytes.ofUInt64 value ++
        file.toBytes.toList.drop (slot.offset + 8) := by
  obtain ⟨before, after, order, place, notBefore, notAfter⟩ := slot.all_split
  -- The words of other slots are written as they were.
  have others {slots : List Slot} (apart : slot ∉ slots) :
      slots.flatMap (fun other => Bytes.ofUInt64 ((file.write slot value).read other)) =
        slots.flatMap fun other => Bytes.ofUInt64 (file.read other) := by
    rw [List.flatMap_def, List.flatMap_def]
    congr 1
    refine List.map_congr_left fun other listed => ?_
    have different : other ≠ slot := fun same => apart (same ▸ listed)
    rw [read_write, if_neg different]
  -- Those in front of the slot take up all bytes up to its offset.
  have front : (before.flatMap fun other => Bytes.ofUInt64 (file.read other)).length =
      slot.offset := by
    rw [Slot.offset_eq, ← place]
    simp [Bytes.ofUInt64, List.map_const', Nat.mul_comm]
  have own : (Bytes.ofUInt64 (file.read slot)).length = 8 := by simp [Bytes.ofUInt64]
  simp only [toBytes, order, List.flatMap_append, List.flatMap_cons, others notBefore,
    others notAfter]
  rw [read_write, if_pos rfl, List.take_left' front, ← List.drop_drop, List.drop_left' front,
    List.drop_left' own, List.append_assoc]

/-- The word of a slot is found in the eight bytes at its offset. -/
theorem take_drop_toBytes (file : RegisterFile) (slot : Slot) :
    (file.toBytes.toList.drop slot.offset).take 8 = Bytes.ofUInt64 (file.read slot) := by
  -- The slots are written one behind the other in equal stretches.
  rw [Slot.offset_eq, toBytes, take_drop_flatMap (fun _ => by simp [Bytes.ofUInt64])
    slot.all_place]

/-- The fields are written in the order in which they are declared. -/
theorem toBytes_mk (words : Fin 17 → UInt64) :
    (mk (words 0) (words 1) (words 2) (words 3) (words 4) (words 5) (words 6) (words 7) (words 8)
      (words 9) (words 10) (words 11) (words 12) (words 13) (words 14) (words 15)
      (words 16)).toBytes.toList = (List.ofFn words).flatMap Bytes.ofUInt64 := rfl

end RegisterFile

namespace Machine.Swap

/-- The routine exchanges each register with its own slot, and with no other one. -/
theorem exchange_mem_routine_iff {register : Register} {displacement : UInt64} :
    .exchange register ⟨some .rax, displacement⟩ ∈ routine ↔
      displacement = UInt64.ofNat register.offset := by
  -- The routine is short enough to look for every exchange in it.
  constructor
  · intro listed
    simp only [routine, exchangeAll, slot, stack, List.mem_append, List.mem_cons, List.mem_map,
      Step.exchange.injEq, Place.mk.injEq, reduceCtorEq, List.not_mem_nil, false_and, and_false,
      true_and, false_or, or_false, or_assoc] at listed
    -- It is one of those that are exchanged before the call or after it, or `rax`.
    rcases listed with ⟨_, _, rfl, rfl⟩ | ⟨rfl, rfl⟩ | ⟨_, _, rfl, rfl⟩ <;> rfl
  · rintro rfl
    cases register <;> decide

/-- The flags pass through their own slot in either direction, and through no other one. -/
theorem word_mem_routine_iff {displacement : UInt64} :
    (.pushWord ⟨some .rax, displacement⟩ ∈ routine ↔
        displacement = UInt64.ofNat Slot.flags.offset) ∧
      (.popWord ⟨some .rax, displacement⟩ ∈ routine ↔
        displacement = UInt64.ofNat Slot.flags.offset) := by
  -- The flags are pushed once before the call and popped once behind it, each at their own slot.
  simp [routine, exchangeAll, slot]

end Machine.Swap

/-- One layout of the register file serves everywhere. Bytes and registers determine each other,
every register is set on its own, in the eight bytes at its offset and no others, the offsets follow
the order of the registers, in which the fields are declared and the bytes are written, and the
exchange routine finds each register in memory at the same offset. -/
theorem RegisterFile.one_layout :
    (∀ file, ofBytes file.toBytes = file) ∧ (∀ block, (ofBytes block).toBytes = block) ∧
    (∀ (file : RegisterFile) (register : Register) (value : UInt64),
      let changed := file.set register value
      changed.get register = value ∧
        (∀ other, other ≠ register → changed.get other = file.get other) ∧
        changed.rflags = file.rflags ∧ changed.token = file.token ∧
        (∀ later, changed.set register later = file.set register later) ∧
        (∀ other, other ≠ register → ∀ later,
          changed.set other later = (file.set other later).set register value) ∧
        changed.toBytes.toList = file.toBytes.toList.take register.offset ++
          Bytes.littleEndian 8 value.toNat ++ file.toBytes.toList.drop (register.offset + 8)) ∧
    (∀ file : RegisterFile,
      (∀ register : Register, (file.toBytes.toList.drop register.offset).take 8 =
        Bytes.littleEndian 8 (file.get register).toNat) ∧
      (file.toBytes.toList.drop 0x78).take 8 = Bytes.littleEndian 8 file.rflags.toNat ∧
      (file.toBytes.toList.drop 0x80).take 8 = Bytes.littleEndian 8 file.token.toNat) ∧
    (∀ register : Register, ∃ place, Register.all[place]? = some register ∧
      register.offset = 8 * place) ∧
    (∀ words : Fin 17 → UInt64,
      (mk (words 0) (words 1) (words 2) (words 3) (words 4) (words 5) (words 6) (words 7)
        (words 8) (words 9) (words 10) (words 11) (words 12) (words 13) (words 14) (words 15)
        (words 16)).toBytes.toList = (List.ofFn words).flatMap Bytes.ofUInt64) ∧
    (∀ displacement,
      (∀ register, .exchange register ⟨some .rax, displacement⟩ ∈ Machine.Swap.routine ↔
        displacement = UInt64.ofNat register.offset) ∧
      (.pushWord ⟨some .rax, displacement⟩ ∈ Machine.Swap.routine ↔ displacement = 0x78) ∧
      (.popWord ⟨some .rax, displacement⟩ ∈ Machine.Swap.routine ↔ displacement = 0x78)) ∧
    ∀ (processor : Machine.Processor) (start : UInt64),
      Machine.Swap.readFile processor start = ofBytes (processor.block start size) := by
  -- The parts of the claim are lemmas about slots, of which the registers are fifteen.
  refine ⟨ofBytes_toBytes, toBytes_ofBytes, fun file register value => ?_, fun file => ?_,
    fun register => ?_, toBytes_mk, fun displacement => ?_, Machine.Swap.readFile_eq_ofBytes⟩
  · -- Setting a register is writing its slot.
    have slots {other : Register} (different : other ≠ register) :
        Slot.general other ≠ .general register := fun same => different (Slot.general.inj same)
    refine ⟨?_, fun other different => ?_, ?_, ?_, ?_, fun other different later => ?_, ?_⟩
    · exact (file.read_write (.general register) (.general register) value).trans (if_pos rfl)
    · exact (file.read_write (.general register) (.general other) value).trans
        (if_neg (slots different))
    · exact file.read_write (.general register) .flags value
    · exact file.read_write (.general register) .token value
    · exact fun later => file.write_write (.general register) value later
    · exact file.write_comm (slots different) value later
    · exact file.toBytes_write (.general register) value
  -- The words lie at the offsets of their slots.
  · exact ⟨fun register => file.take_drop_toBytes (.general register),
      file.take_drop_toBytes .flags, file.take_drop_toBytes .token⟩
  -- The registers come first in the order of the slots.
  · exact ⟨register.index, by cases register <;> rfl, rfl⟩
  -- The routine addresses the slots by the same offsets.
  · exact ⟨fun register => Machine.Swap.exchange_mem_routine_iff,
      Machine.Swap.word_mem_routine_iff⟩

end CallGate
