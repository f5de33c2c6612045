import CallGate.Proofs.Bytes
import CallGate.Region.Descriptor

/-! A descriptor is read exactly if it was written, and any other bytes are refused where they end
too early or do not end in time. -/

namespace CallGate.Descriptor

/-- The lengths of a descriptor take four bytes each: the number of its records, and the length of
every payload. -/
structure Fits (records : List RegionRecord) : Prop where
  count : records.length < 2 ^ 32
  payload : ∀ record ∈ records, record.payload.length < 2 ^ 32

/-- Bytes end within a record: so far behind its start there is a field that needs so many bytes
and does not get them. -/
inductive Lacks : (rest : Bytes) → (place needed : Nat) → Prop
  | token (rest : Bytes) (few : rest.length < 4) : Lacks rest 0 4
  | length (token rest : Bytes) (four : token.length = 4) (few : rest.length < 4) :
    Lacks (token ++ rest) 4 4
  | payload (token length rest : Bytes) (first : token.length = 4) (second : length.length = 4)
    (few : rest.length < Bytes.value length) :
    Lacks (token ++ length ++ rest) 8 (Bytes.value length)

/-- A descriptor is cut off: whatever it is read for in order, the count and the fields of whole
records, is there up to a place, and the field at that place does not get the bytes it needs. -/
inductive Cut : (bytes : Bytes) → (offset needed : Nat) → Prop
  | count (bytes : Bytes) (few : bytes.length < 4) : Cut bytes 0 4
  | record (count : Bytes) (found : List RegionRecord) (rest : Bytes) {place needed : Nat}
    (four : count.length = 4) (fit : ∀ record ∈ found, record.payload.length < 2 ^ 32)
    (fewer : found.length < Bytes.value count) (lacks : Lacks rest place needed) :
    Cut (count ++ found.flatMap encodeRecord ++ rest)
      (4 + (found.flatMap encodeRecord).length + place) needed

/-- The field that bytes end within lies at a place of theirs, and reaches past their end. -/
theorem Lacks.reaches {rest : Bytes} {place needed : Nat} (lacks : Lacks rest place needed) :
    place ≤ rest.length ∧ rest.length - place < needed := by
  -- Every field begins where the bytes of those before it end.
  cases lacks with
  | token rest few => exact ⟨Nat.zero_le _, few⟩
  | length token rest four few =>
    rw [List.length_append]
    omega
  | payload token length rest first second few =>
    simp only [List.length_append]
    omega

/-- The same holds of a descriptor that is cut off. -/
theorem Cut.reaches {bytes : Bytes} {offset needed : Nat} (cut : Cut bytes offset needed) :
    offset ≤ bytes.length ∧ bytes.length - offset < needed := by
  -- What is there in front of the record moves the place and the end alike.
  cases cut with
  | count bytes few => exact ⟨Nat.zero_le _, few⟩
  | record count found rest four fit fewer lacks =>
    have reaches := lacks.reaches
    simp only [List.length_append]
    omega

/-- Four bytes in front, or there are fewer. -/
theorem four_or_fewer (bytes : Bytes) :
    bytes.length < 4 ∨ ∃ front rest, front.length = 4 ∧ bytes = front ++ rest := by
  -- The bytes are split behind the fourth one, if there is one.
  rcases Nat.lt_or_ge bytes.length 4 with few | enough
  · exact .inl few
  · exact .inr ⟨bytes.take 4, bytes.drop 4, by rw [List.length_take]; omega,
      (List.take_append_drop 4 bytes).symm⟩

/-- There is a whole record in front of bytes, or they end within one. -/
theorem record_or_lacks (bytes : Bytes) :
    (∃ record rest, record.payload.length < 2 ^ 32 ∧ bytes = encodeRecord record ++ rest) ∨
      ∃ place needed, Lacks bytes place needed := by
  -- Each field in turn is there, or it is the one that is lacking.
  rcases four_or_fewer bytes with few | ⟨token, behind, first, rfl⟩
  · exact .inr ⟨0, 4, .token bytes few⟩
  rcases four_or_fewer behind with few | ⟨length, rest, second, rfl⟩
  · exact .inr ⟨4, 4, .length token behind first few⟩
  -- Behind two numbers the payload is there as a whole or it is not.
  rcases Nat.lt_or_ge rest.length (Bytes.value length) with few | enough
  · rw [← List.append_assoc]
    exact .inr ⟨8, _, .payload token length rest first second few⟩
  · have bound : Bytes.value length < 2 ^ 32 := by simpa [second] using Bytes.value_lt length
    have exact : (rest.take (Bytes.value length)).length = Bytes.value length := by
      rw [List.length_take]
      omega
    -- The bytes of both numbers are those that the numbers are written as.
    have written : Bytes.littleEndian 4 (Bytes.value length) = length := by
      simpa [second] using Bytes.littleEndian_value length
    refine .inl ⟨⟨UInt32.ofNat (Bytes.value token), rest.take (Bytes.value length)⟩,
      rest.drop (Bytes.value length), by rwa [exact], ?_⟩
    simp only [encodeRecord, exact, written, Bytes.ofUInt32_ofNat_value first,
      List.append_assoc, List.take_append_drop]

/-- So many whole records stand in front of bytes, or they end within one of these. -/
theorem records_or_lacks (count : Nat) (bytes : Bytes) :
    (∃ (records : List RegionRecord) (rest : Bytes), records.length = count ∧
      (∀ record ∈ records, record.payload.length < 2 ^ 32) ∧
      bytes = records.flatMap encodeRecord ++ rest) ∨
    ∃ (found : List RegionRecord) (rest : Bytes) (place needed : Nat), found.length < count ∧
      (∀ record ∈ found, record.payload.length < 2 ^ 32) ∧
      bytes = found.flatMap encodeRecord ++ rest ∧ Lacks rest place needed := by
  -- Induction on the number of records that are asked for.
  induction count generalizing bytes with
  -- No record is asked for, and all bytes are behind it.
  | zero => exact .inl ⟨[], bytes, rfl, by simp, by simp⟩
  | succ count ih =>
    rcases record_or_lacks bytes with ⟨record, behind, small, rfl⟩ | ⟨place, needed, lacks⟩
    · -- One record is off the front, and the others are looked for in what is left.
      rcases ih behind with ⟨records, rest, length, fit, rfl⟩ |
        ⟨found, rest, place, needed, fewer, fit, rfl, lacks⟩
      · exact .inl ⟨record :: records, rest, by simp [length],
          List.forall_mem_cons.mpr ⟨small, fit⟩, by simp⟩
      · exact .inr ⟨record :: found, rest, place, needed, by simpa using fewer,
          List.forall_mem_cons.mpr ⟨small, fit⟩, by simp, lacks⟩
    -- Already the first record is lacking.
    · exact .inr ⟨[], bytes, place, needed, by simp, by simp, by simp, lacks⟩

/-- All bytes are a descriptor, with more behind it or not, or they are one that is cut off. -/
theorem encode_or_cut (bytes : Bytes) :
    (∃ records extra, Fits records ∧ bytes = encode records ++ extra) ∨
      ∃ offset needed, Cut bytes offset needed := by
  -- The count says how many records are looked for behind it.
  rcases four_or_fewer bytes with few | ⟨count, behind, four, rfl⟩
  · exact .inr ⟨0, 4, .count bytes few⟩
  rcases records_or_lacks (Bytes.value count) behind with ⟨records, extra, length, fit, rfl⟩ |
    ⟨found, rest, place, needed, fewer, fit, rfl, lacks⟩
  -- The count is written with as many records as were found, so it is the one that was read.
  · have bound : Bytes.value count < 2 ^ 32 := by simpa [four] using Bytes.value_lt count
    have written : Bytes.littleEndian 4 records.length = count := by
      simpa [four, length] using Bytes.littleEndian_value count
    exact .inl ⟨records, extra, ⟨by rwa [length], fit⟩, by simp [encode, written]⟩
  -- Fewer records are there than the count says.
  · rw [← List.append_assoc]
    exact .inr ⟨_, needed, .record count found rest four fit fewer lacks⟩

namespace Reader

/-- Bytes that are there are taken, and the reader stands behind them. -/
theorem take_append (offset : Nat) (front rest : Bytes) :
    take ⟨offset, front ++ rest⟩ front.length = .ok (front, ⟨offset + front.length, rest⟩) := by
  -- The front is exactly as long as what is asked for.
  simp [take]

/-- Bytes that are not there as a whole are not taken at all. -/
theorem take_of_few {rest : Bytes} {needed : Nat} (few : rest.length < needed) (offset : Nat) :
    take ⟨offset, rest⟩ needed = .error (.truncated offset needed rest.length) := by
  -- Taking too many yields what there is, which is fewer.
  have short : (rest.take needed).length ≠ needed := by
    rw [List.length_take]
    omega
  simp only [take, if_neg short]

/-- Four bytes are taken as the word they stand for. -/
theorem word_append {front : Bytes} (four : front.length = 4) (offset : Nat) (rest : Bytes) :
    word ⟨offset, front ++ rest⟩ =
      .ok (UInt32.ofNat (Bytes.value front), ⟨offset + 4, rest⟩) := by
  have taken := take_append offset front rest
  rw [four] at taken
  -- A word is four bytes taken.
  rw [word, taken]

/-- With fewer bytes there is no word. -/
theorem word_of_few {rest : Bytes} (few : rest.length < 4) (offset : Nat) :
    word ⟨offset, rest⟩ = .error (.truncated offset 4 rest.length) := by
  -- Without four bytes the taking fails, and the word with it.
  rw [word, take_of_few few]

/-- The number of four bytes is the number of the word they are read as. -/
theorem toNat_ofNat_value {bytes : Bytes} (four : bytes.length = 4) :
    (UInt32.ofNat (Bytes.value bytes)).toNat = Bytes.value bytes :=
  -- Four bytes are less than what a word holds.
  UInt32.toNat_ofNat_of_lt' (by simpa [four] using Bytes.value_lt bytes)

/-- A record that was written is read back, and what follows it is left. -/
theorem record_encode {record : RegionRecord} (small : record.payload.length < 2 ^ 32)
    (offset : Nat) (rest : Bytes) :
    Reader.record ⟨offset, encodeRecord record ++ rest⟩ =
      .ok (record, ⟨offset + (encodeRecord record).length, rest⟩) := by
  -- Both numbers are written in four bytes, whatever they are.
  have first : (Bytes.ofUInt32 record.token).length = 4 := Bytes.length_littleEndian ..
  have second : (Bytes.littleEndian 4 record.payload.length).length = 4 :=
    Bytes.length_littleEndian ..
  -- The length that is read is the length of the payload, so the payload is taken as a whole.
  have length : (UInt32.ofNat (Bytes.value (Bytes.littleEndian 4 record.payload.length))).toNat =
      record.payload.length := by
    rw [toNat_ofNat_value second, Bytes.value_littleEndian]
    exact Nat.mod_eq_of_lt small
  simp only [Reader.record, encodeRecord, List.append_assoc, word_append first,
    word_append second, length, take_append, Bytes.ofNat_value_ofUInt32, List.length_append,
    first, second, Nat.add_assoc]

/-- Bytes that end within a record are refused at the field that is lacking. -/
theorem record_of_lacks {rest : Bytes} {place needed : Nat} (lacks : Lacks rest place needed)
    (offset : Nat) :
    Reader.record ⟨offset, rest⟩ =
      .error (.truncated (offset + place) needed (rest.length - place)) := by
  -- The fields before the lacking one are read, and each moves the reader on by its length.
  cases lacks with
  | token rest few => simp only [Reader.record, word_of_few few, Nat.add_zero, Nat.sub_zero]
  | length token rest four few =>
    simp only [Reader.record, word_append four, word_of_few few, List.length_append, four,
      Nat.add_sub_cancel_left]
  | payload token length rest first second few =>
    simp only [Reader.record, List.append_assoc, word_append first, word_append second,
      toNat_ofNat_value second, take_of_few few, List.length_append, first, second, Nat.add_assoc]
    congr 2
    omega

/-- Records that were written are read back, and what follows them is left. -/
theorem records_encode {records : List RegionRecord}
    (fit : ∀ record ∈ records, record.payload.length < 2 ^ 32) (offset : Nat) (rest : Bytes)
    (found : Array RegionRecord) :
    Reader.records records.length ⟨offset, records.flatMap encodeRecord ++ rest⟩ found =
      .ok (found ++ records.toArray,
        ⟨offset + (records.flatMap encodeRecord).length, rest⟩) := by
  -- Induction on the records, with the place of the reader and the table that has grown so far.
  induction records generalizing offset found with
  | nil => simp [Reader.records]
  | cons record records ih =>
    -- The first record is read and kept, and the reader stands where the others begin.
    have small := fit record List.mem_cons_self
    have others := ih fun other member => fit other (List.mem_cons_of_mem _ member)
    simp only [List.length_cons, List.flatMap_cons, List.append_assoc, Reader.records,
      record_encode small, others, List.length_append, Nat.add_assoc]
    simp

/-- If there are fewer records than are asked for, reading stops at the field that is lacking. -/
theorem records_of_lacks {records : List RegionRecord}
    (fit : ∀ record ∈ records, record.payload.length < 2 ^ 32) {count : Nat}
    (fewer : records.length < count) {rest : Bytes} {place needed : Nat}
    (lacks : Lacks rest place needed) (offset : Nat) (found : Array RegionRecord) :
    Reader.records count ⟨offset, records.flatMap encodeRecord ++ rest⟩ found =
      .error (.truncated (offset + (records.flatMap encodeRecord).length + place) needed
        (rest.length - place)) := by
  -- Induction on the records that are there, each of which uses up one of those asked for.
  induction records generalizing offset found count with
  | nil =>
    -- All that are there were read, and the next one is lacking.
    obtain ⟨count, rfl⟩ : ∃ more, count = more + 1 := ⟨count - 1, by simp at fewer; omega⟩
    simp [Reader.records, record_of_lacks lacks]
  | cons record records ih =>
    have small := fit record List.mem_cons_self
    obtain ⟨count, rfl⟩ : ∃ more, count = more + 1 := ⟨count - 1, by simp at fewer; omega⟩
    have others := ih (fun other member => fit other (List.mem_cons_of_mem _ member))
      (Nat.lt_of_succ_lt_succ fewer)
    simp only [List.flatMap_cons, List.append_assoc, Reader.records, record_encode small, others,
      List.length_append, Nat.add_assoc]

end Reader

/-- The number of records is read back from its four bytes. -/
theorem toNat_count {records : List RegionRecord} (fits : Fits records) :
    (UInt32.ofNat (Bytes.value (Bytes.littleEndian 4 records.length))).toNat = records.length := by
  -- The count fits its four bytes, so nothing of it is lost.
  rw [Reader.toNat_ofNat_value (Bytes.length_littleEndian ..), Bytes.value_littleEndian]
  exact Nat.mod_eq_of_lt fits.count

/-- A descriptor is read back, unless something stands behind it. -/
theorem parse_encode_append {records : List RegionRecord} (fits : Fits records) (extra : Bytes) :
    parse (encode records ++ extra) =
      if extra = [] then .ok records else .error (.trailing extra.length) := by
  have four : (Bytes.littleEndian 4 records.length).length = 4 := Bytes.length_littleEndian ..
  -- The count announces the records, and the loop reads exactly as many.
  simp only [parse, encode, List.append_assoc, Reader.word_append four, toNat_count fits,
    Reader.records_encode fits.payload]
  cases extra <;> simp

/-- A descriptor is read back. -/
theorem parse_encode {records : List RegionRecord} (fits : Fits records) :
    parse (encode records) = .ok records := by
  -- It is the case of nothing behind it.
  simpa using parse_encode_append fits []

/-- A descriptor that is cut off is refused where it is. -/
theorem parse_of_cut {bytes : Bytes} {offset needed : Nat} (cut : Cut bytes offset needed) :
    parse bytes = .error (.truncated offset needed (bytes.length - offset)) := by
  -- The count is cut off, or a record is behind a count that announces it.
  cases cut with
  | count bytes few => simp only [parse, Reader.word_of_few few, Nat.sub_zero]
  | record count found rest four fit fewer lacks =>
    simp only [parse, List.append_assoc, Reader.word_append four,
      Reader.toNat_ofNat_value four, Reader.records_of_lacks fit fewer lacks]
    simp only [List.length_append, four]
    -- Both numbers behind the records come to the same sums.
    congr 2
    · omega

/-- What is read is what was written. -/
theorem parse_eq_ok_iff {bytes : Bytes} {records : List RegionRecord} :
    parse bytes = .ok records ↔ Fits records ∧ bytes = encode records := by
  -- All bytes are one of two kinds, and each kind is read in one way only.
  constructor
  · -- Bytes that are cut off are refused, and so are those with something behind them.
    intro read
    rcases encode_or_cut bytes with ⟨written, extra, fits, rfl⟩ | ⟨offset, needed, cut⟩
    · rw [parse_encode_append fits] at read
      split at read
      · rename_i nothing
        cases read
        exact ⟨fits, by rw [nothing, List.append_nil]⟩
      · cases read
    · cases (parse_of_cut cut).symm.trans read
  -- What was written is read back.
  · rintro ⟨fits, rfl⟩
    exact parse_encode fits

/-- Bytes are trailing exactly if they stand behind what was written. -/
theorem parse_eq_trailing_iff {bytes : Bytes} {count : Nat} :
    parse bytes = .error (.trailing count) ↔ ∃ records extra, Fits records ∧ extra ≠ [] ∧
      extra.length = count ∧ bytes = encode records ++ extra := by
  -- Of the two kinds of bytes only one leaves something behind the records.
  constructor
  · intro read
    rcases encode_or_cut bytes with ⟨records, extra, fits, rfl⟩ | ⟨offset, needed, cut⟩
    · rw [parse_encode_append fits] at read
      split at read
      · cases read
      · rename_i some
        cases read
        exact ⟨records, extra, fits, some, rfl, rfl⟩
    · cases (parse_of_cut cut).symm.trans read
  -- What stands behind is told by its length.
  · rintro ⟨records, extra, fits, some, rfl, rfl⟩
    rw [parse_encode_append fits, if_neg some]

/-- A descriptor is truncated exactly if it is cut off, and that much is left at the place. -/
theorem parse_eq_truncated_iff {bytes : Bytes} {offset needed available : Nat} :
    parse bytes = .error (.truncated offset needed available) ↔
      Cut bytes offset needed ∧ available = bytes.length - offset := by
  -- Of the two kinds of bytes only one ends too early.
  constructor
  · intro read
    rcases encode_or_cut bytes with ⟨records, extra, fits, rfl⟩ | ⟨place, lacking, cut⟩
    · rw [parse_encode_append fits] at read
      split at read <;> cases read
    · cases (parse_of_cut cut).symm.trans read
      exact ⟨cut, rfl⟩
  · rintro ⟨cut, rfl⟩
    exact parse_of_cut cut

/-- A descriptor that something is missing from at the end is cut off. -/
theorem cut_of_proper_prefix {records : List RegionRecord} (fits : Fits records) {bytes : Bytes}
    (begins : bytes <+: encode records) (proper : bytes ≠ encode records) :
    ∃ offset needed, Cut bytes offset needed := by
  obtain ⟨missing, whole⟩ := begins
  -- The bytes that are left are either whole themselves or cut off.
  rcases encode_or_cut bytes with ⟨others, extra, fit, rfl⟩ | cut
  · -- Otherwise the descriptor itself would be another one, with bytes behind it.
    have read := parse_encode fits
    rw [← whole, List.append_assoc, parse_encode_append fit] at read
    split at read
    · rename_i nothing
      rw [List.append_assoc, nothing, List.append_nil] at whole
      rw [List.append_eq_nil_iff] at nothing
      exact absurd (by rw [nothing.1, List.append_nil, whole]) proper
    · cases read
  · exact cut

/-- Bytes are read as records exactly if the records are written as these bytes. A descriptor that
something is missing from is truncated, and one that something stands behind is told how much.
These are the only ways to be refused, and the first field that is not there is the one named. -/
theorem parse_exact (bytes : Bytes) :
    (∀ records, parse bytes = .ok records ↔ Fits records ∧ bytes = encode records) ∧
      (∀ records, Fits records → bytes <+: encode records → bytes ≠ encode records →
        ∃ offset needed available,
          parse bytes = .error (.truncated offset needed available) ∧
            offset ≤ bytes.length ∧ available = bytes.length - offset ∧ available < needed) ∧
      (∀ records extra, Fits records → extra ≠ [] → bytes = encode records ++ extra →
        parse bytes = .error (.trailing extra.length)) ∧
      ∀ error, parse bytes = .error error →
        ((∃ count, error = .trailing count) ↔
          ∃ records, Fits records ∧ encode records <+: bytes ∧ encode records ≠ bytes) ∧
        ((¬ ∃ count, error = .trailing count) → ∃ offset needed, Cut bytes offset needed ∧
          error = .truncated offset needed (bytes.length - offset)) := by
  -- Exactness, what is too short, what is too long, and which error tells which.
  refine ⟨fun records => parse_eq_ok_iff, ?_, ?_, ?_⟩
  -- Something is missing at the end, so the bytes are cut off at some field.
  · intro records fits begins proper
    obtain ⟨offset, needed, cut⟩ := cut_of_proper_prefix fits begins proper
    exact ⟨offset, needed, _, parse_of_cut cut, cut.reaches.1, rfl, cut.reaches.2⟩
  · rintro records extra fits some rfl
    exact parse_eq_trailing_iff.mpr ⟨records, extra, fits, some, rfl, rfl⟩
  · -- There are two errors, and each comes of its own kind of bytes only.
    intro error refused
    refine ⟨⟨?_, ?_⟩, ?_⟩
    · rintro ⟨count, rfl⟩
      obtain ⟨records, extra, fits, some, _, rfl⟩ := parse_eq_trailing_iff.mp refused
      exact ⟨records, fits, List.prefix_append .., by simpa using some⟩
    · rintro ⟨records, fits, ⟨extra, rfl⟩, proper⟩
      have some : extra ≠ [] := by simpa using proper
      rw [parse_encode_append fits, if_neg some] at refused
      exact ⟨extra.length, (Except.error.inj refused).symm⟩
    · intro ended
      cases error with
      | trailing count => exact absurd ⟨count, rfl⟩ ended
      | truncated offset needed available =>
        obtain ⟨cut, rfl⟩ := parse_eq_truncated_iff.mp refused
        exact ⟨offset, needed, cut, rfl⟩

/-- Two records, the second of which ends within its length, and both of them with a byte behind. -/
theorem parse_exact_of_two_records :
    let records : List RegionRecord := [⟨7, [0x90]⟩, ⟨1, [0xAA, 0xBB]⟩]
    let bytes := (encode records).take 19
    Fits records ∧ bytes <+: encode records ∧ bytes ≠ encode records ∧
      (∃ offset needed available, parse bytes = .error (.truncated offset needed available) ∧
        offset ≤ bytes.length ∧ available = bytes.length - offset ∧ available < needed) ∧
      parse (encode records ++ [0]) = .error (.trailing 1) ∧
      parse bytes = .error (.truncated 17 4 2) ∧ Cut bytes 17 4 := by
  -- Reading what is left of the two records is evaluated, and the theorem says where it is cut.
  intro records bytes
  have fits : Fits records := ⟨by decide, by decide⟩
  have begins : bytes <+: encode records := List.take_prefix 19 (encode records)
  have proper : bytes ≠ encode records := by decide
  obtain ⟨_, truncated, _, refused⟩ := parse_exact bytes
  obtain ⟨_, _, trailing, _⟩ := parse_exact (encode records ++ [0])
  have ended : parse bytes = .error (.truncated 17 4 2) := by cbv
  refine ⟨fits, begins, proper, truncated records fits begins proper,
    trailing records [0] fits (by decide) rfl, ended, ?_⟩
  obtain ⟨offset, needed, cut, same⟩ := (refused _ ended).2 (by simp)
  cases same
  exact cut

end CallGate.Descriptor
