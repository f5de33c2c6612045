import CallGate.Proofs.Region.Descriptor

/-! Reading a descriptor takes no more rounds and no more room than its bytes pay for, and whatever
it computes on the way fits a word. -/

namespace CallGate.Descriptor

/-- The difference of two words, unless it lies below zero. -/
def difference? (left right : Nat) : Option Nat :=
  if right ≤ left then some (left - right) else none

/-- The sum of two words, unless it takes more bits than a word has. -/
def sum? (width left right : Nat) : Option Nat :=
  if left + right < 2 ^ width then some (left + right) else none

/-- The bytes from one place up to another, unless these are no places in order. -/
def between? (bytes : Bytes) (start stop : Nat) : Option Bytes :=
  if start ≤ stop ∧ stop ≤ bytes.length then some ((bytes.drop start).take (stop - start)) else none

/-- Why a pass over a descriptor ends early. -/
inductive Halt where
  /-- A result is no word or no place of the input. -/
  | fault
  /-- The bytes are no descriptor. -/
  | refused (error : DescriptorError)
  deriving DecidableEq, Repr

/-- A pass over a descriptor, kept as a place in the whole input and a table with so much room.

The books beside it record what the pass took. -/
structure Pass where
  /-- Where the next byte is read. -/
  offset : Nat := 0
  /-- Every place the pass has stood at, first to last. -/
  places : List Nat := [0]
  /-- How often the loop over the records was entered. -/
  rounds : Nat := 0
  /-- The records read so far. -/
  found : List RegionRecord := []
  /-- How many records the table holds before it has to be moved. -/
  room : Nat := 0
  /-- How often the table was moved. -/
  moves : Nat := 0
  deriving DecidableEq, Repr

namespace Pass

/-- The next `needed` bytes, by words of `width` bits. -/
def take (width : Nat) (bytes : Bytes) (pass : Pass) (needed : Nat) : Except Halt Bytes × Pass :=
  match difference? bytes.length pass.offset with
  | none => (.error .fault, pass)
  | some available =>
    if available < needed then
      (.error (.refused (.truncated pass.offset needed available)), pass)
    else
      match sum? width pass.offset needed with
      | none => (.error .fault, pass)
      | some stop =>
        match between? bytes pass.offset stop with
        | none => (.error .fault, pass)
        | some slice => (.ok slice, { pass with offset := stop, places := pass.places ++ [stop] })

/-- The next four bytes as a number. -/
def word (width : Nat) (bytes : Bytes) (pass : Pass) : Except Halt UInt32 × Pass :=
  match pass.take width bytes 4 with
  | (.error halt, pass) => (.error halt, pass)
  | (.ok slice, pass) => (.ok (UInt32.ofNat (Bytes.value slice)), pass)

/-- The next record. Its length is cut down to a word. -/
def record (width : Nat) (bytes : Bytes) (pass : Pass) : Except Halt RegionRecord × Pass :=
  match pass.word width bytes with
  | (.error halt, pass) => (.error halt, pass)
  | (.ok token, pass) =>
    match pass.word width bytes with
    | (.error halt, pass) => (.error halt, pass)
    | (.ok length, pass) =>
      match pass.take width bytes (length.toNat % 2 ^ width) with
      | (.error halt, pass) => (.error halt, pass)
      | (.ok payload, pass) => (.ok ⟨token, payload⟩, pass)

/-- Puts a record into the table, which is moved to twice the room if it is full. -/
def push (pass : Pass) (record : RegionRecord) : Pass :=
  if pass.found.length < pass.room then { pass with found := pass.found ++ [record] }
  else
    { pass with
      found := pass.found ++ [record]
      room := max 4 (2 * pass.room)
      moves := pass.moves + 1 }

/-- The loop over the records. -/
def records (width : Nat) (bytes : Bytes) : (count : Nat) → Pass → Except Halt Unit × Pass
  | 0, pass => (.ok (), pass)
  | count + 1, pass =>
    match { pass with rounds := pass.rounds + 1 }.record width bytes with
    | (.error halt, pass) => (.error halt, pass)
    | (.ok record, pass) => records width bytes count (pass.push record)

end Pass

/-- Reads a descriptor in one pass, and answers with the books of the pass. -/
def traverse (width : Nat) (bytes : Bytes) : Except Halt (List RegionRecord) × Pass :=
  match ({} : Pass).word width bytes with
  | (.error halt, pass) => (.error halt, pass)
  | (.ok count, pass) =>
    let table := { pass with room := reserve bytes (count.toNat % 2 ^ width) }
    match table.records width bytes count.toNat with
    | (.error halt, pass) => (.error halt, pass)
    | (.ok (), pass) =>
      match difference? bytes.length pass.offset with
      | none => (.error .fault, pass)
      | some 0 => (.ok pass.found, pass)
      | some (trailing + 1) => (.error (.refused (.trailing (trailing + 1))), pass)

/-- A number of 32 bits fits a word as it is. -/
theorem toNat_mod_word {width : Nat} (wide : 32 ≤ width) (number : UInt32) :
    number.toNat % 2 ^ width = number.toNat :=
  -- A word of so many bits is wide enough for every number of 32.
  Nat.mod_eq_of_lt (Nat.lt_of_lt_of_le number.toNat_lt (Nat.pow_le_pow_right (by omega) wide))

/-- A pass stands at a place of the input, and has never gone back. -/
structure Pass.Sound (bytes : Bytes) (pass : Pass) : Prop where
  within : pass.offset ≤ bytes.length
  rising : pass.places.Pairwise (· ≤ ·)
  behind : ∀ place ∈ pass.places, place ≤ pass.offset

/-- A pass goes on by at least so many bytes, and leaves the table alone. -/
structure Pass.Advances (pass : Pass) (least : Nat) (after : Pass) : Prop where
  further : pass.offset + least ≤ after.offset
  rounds : after.rounds = pass.rounds
  found : after.found = pass.found
  room : after.room = pass.room
  moves : after.moves = pass.moves

/-- A pass stands where a reader does. -/
structure Pass.Follows (bytes : Bytes) (reader : Reader) (pass : Pass) : Prop where
  sound : pass.Sound bytes
  stands : reader = ⟨pass.offset, bytes.drop pass.offset⟩

/-- A pass answers what a reader does, and stands where it does or was refused for the same reason.
An answer is paid for by so many bytes. -/
inductive Pass.Mirrors (bytes : Bytes) (pass : Pass) {α : Type} (least : Nat) :
    Except DescriptorError (α × Reader) → Except Halt α × Pass → Prop
  | refused (error : DescriptorError) {after : Pass} (sound : after.Sound bytes)
    (advances : pass.Advances 0 after) :
    Mirrors bytes pass least (.error error) (.error (.refused error), after)
  | answered (value : α) {reader : Reader} {after : Pass} (follows : after.Follows bytes reader)
    (advances : pass.Advances least after) :
    Mirrors bytes pass least (.ok (value, reader)) (.ok value, after)

namespace Pass

variable {width : Nat} {bytes : Bytes} {reader : Reader} {pass middle after : Pass}

/-- Standing still is an advance by nothing. -/
theorem Advances.refl (pass : Pass) : pass.Advances 0 pass := ⟨Nat.le_refl _, rfl, rfl, rfl, rfl⟩

/-- Two advances in a row pay for both. -/
theorem Advances.trans {first second : Nat} (front : pass.Advances first middle)
    (back : middle.Advances second after) : pass.Advances (first + second) after where
  -- The second advance begins where the first one ended.
  further := by
    have ahead := front.further
    have beyond := back.further
    omega
  rounds := back.rounds.trans front.rounds
  found := back.found.trans front.found
  room := back.room.trans front.room
  moves := back.moves.trans front.moves

/-- An advance is also one by fewer bytes. -/
theorem Advances.weaken {least fewer : Nat} (advances : pass.Advances least after)
    (less : fewer ≤ least) : pass.Advances fewer after :=
  -- Only the number of bytes is weaker.
  { advances with further := Nat.le_trans (Nat.add_le_add_left less _) advances.further }

/-- A pass that goes on to a later place of the input never stood behind it. -/
theorem Sound.moved (sound : pass.Sound bytes) {stop : Nat} (ahead : pass.offset ≤ stop)
    (within : stop ≤ bytes.length) :
    { pass with offset := stop, places := pass.places ++ [stop] }.Sound bytes where
  -- The new place is the last, and no place before it was beyond the old one.
  within := within
  rising := by
    refine List.pairwise_append.mpr ⟨sound.rising, List.pairwise_singleton _ _, ?_⟩
    -- All places so far are at most the old one, and the new one is not before it.
    intro place earlier last here
    rw [List.mem_singleton.mp here]
    exact Nat.le_trans (sound.behind place earlier) ahead
  behind := by
    intro place member
    rcases List.mem_append.mp member with earlier | here
    · exact Nat.le_trans (sound.behind place earlier) ahead
    · exact Nat.le_of_eq (List.mem_singleton.mp here)

/-- From a place of the input on, too few bytes are told by their number. -/
theorem take_of_few (width : Nat) {needed : Nat} (within : pass.offset ≤ bytes.length)
    (few : bytes.length - pass.offset < needed) : pass.take width bytes needed =
      (.error (.refused (.truncated pass.offset needed (bytes.length - pass.offset))), pass) := by
  -- What is left is a difference that does not go below zero.
  have left : difference? bytes.length pass.offset = some (bytes.length - pass.offset) :=
    if_pos within
  simp only [take, left, if_pos few]

/-- Bytes that are there end at a place of the input. It is no larger than their number, and so is
a word. -/
theorem take_of_enough (held : bytes.length < 2 ^ width) {needed : Nat}
    (stop : pass.offset + needed ≤ bytes.length) : pass.take width bytes needed =
      (.ok ((bytes.drop pass.offset).take needed), { pass with
        offset := pass.offset + needed, places := pass.places ++ [pass.offset + needed] }) := by
  -- The difference, the sum and the slice are all within their bounds, so none of them fails.
  have left : difference? bytes.length pass.offset = some (bytes.length - pass.offset) :=
    if_pos (by omega)
  have sum : sum? width pass.offset needed = some (pass.offset + needed) :=
    if_pos (Nat.lt_of_le_of_lt stop held)
  have slice : between? bytes pass.offset (pass.offset + needed) =
      some ((bytes.drop pass.offset).take needed) := by
    rw [between?, if_pos ⟨Nat.le_add_right .., stop⟩, Nat.add_sub_cancel_left]
  have enough : ¬bytes.length - pass.offset < needed := by omega
  simp only [take, left, if_neg enough, sum, slice]

/-- Taking bytes is the same for a place in the input as for what is left of it. -/
theorem take_mirrors (held : bytes.length < 2 ^ width) (follows : pass.Follows bytes reader)
    (needed : Nat) :
    pass.Mirrors bytes needed (reader.take needed) (pass.take width bytes needed) := by
  have within := follows.sound.within
  -- The reader holds the bytes that are left, so both see as many of them.
  have available : (bytes.drop pass.offset).length = bytes.length - pass.offset := List.length_drop
  rcases Nat.lt_or_ge (bytes.length - pass.offset) needed with few | enough
  · -- Both name the same place and the same number of bytes left.
    have plain : reader.take needed =
        .error (.truncated pass.offset needed (bytes.length - pass.offset)) := by
      rw [follows.stands, ← available]
      exact Reader.take_of_few (by omega) pass.offset
    rw [plain, take_of_few width within few]
    exact .refused _ follows.sound (.refl pass)
  · -- Both are left behind the bytes that were taken.
    have stop : pass.offset + needed ≤ bytes.length := by omega
    have plain : reader.take needed = .ok ((bytes.drop pass.offset).take needed,
        ⟨pass.offset + needed, bytes.drop (pass.offset + needed)⟩) := by
      have whole : ((bytes.drop pass.offset).take needed).length = needed := by
        rw [List.length_take, available]
        omega
      simp only [Reader.take, follows.stands, if_pos whole, List.drop_drop]
    rw [plain, take_of_enough held stop]
    exact .answered _ ⟨follows.sound.moved (Nat.le_add_right ..) stop, rfl⟩
      ⟨Nat.le_refl _, rfl, rfl, rfl, rfl⟩

/-- A number is read alike. -/
theorem word_mirrors (held : bytes.length < 2 ^ width) (follows : pass.Follows bytes reader) :
    pass.Mirrors bytes 4 reader.word (pass.word width bytes) := by
  -- A number is the four bytes that are taken for it, so only the taking is compared.
  have taken := take_mirrors held follows 4
  rw [Reader.word, word]
  generalize reader.take 4 = plain at taken ⊢
  generalize pass.take width bytes 4 = passed at taken ⊢
  cases taken with
  | refused error sound advances => exact .refused error sound advances
  | answered value follows advances => exact .answered _ follows advances

/-- A record is read alike, and costs the eight bytes of its two numbers at least. -/
theorem record_mirrors (wide : 32 ≤ width) (held : bytes.length < 2 ^ width)
    (follows : pass.Follows bytes reader) :
    pass.Mirrors bytes 8 reader.record (pass.record width bytes) := by
  -- Token, length and payload are read in this order, and whichever fails first fails alike.
  have token := word_mirrors held follows
  rw [Reader.record, record]
  generalize reader.word = plain at token ⊢
  generalize pass.word width bytes = passed at token ⊢
  cases token with
  | refused error sound advances => exact .refused error sound advances
  | @answered token reader behindToken follows first =>
    have length := word_mirrors held follows
    dsimp only
    generalize reader.word = plain at length ⊢
    generalize behindToken.word width bytes = passed at length ⊢
    -- The length behind the token.
    cases length with
    | refused error sound advances =>
      exact .refused error sound ((first.trans advances).weaken (Nat.zero_le _))
    | @answered length reader behindLength follows second =>
      have payload := take_mirrors held follows length.toNat
      -- The length is a number of 32 bits, so no width cuts it down.
      simp only [toNat_mod_word wide]
      generalize reader.take length.toNat = plain at payload ⊢
      generalize behindLength.take width bytes length.toNat = passed at payload ⊢
      have header : pass.Advances 8 behindLength := first.trans second
      -- The payload behind both, however long it is.
      cases payload with
      | refused error sound advances =>
        exact .refused error sound ((header.trans advances).weaken (Nat.zero_le _))
      | answered payload follows advances =>
        exact .answered _ follows ((header.trans advances).weaken (Nat.le_add_right ..))

/-- What a pass has taken is paid for: four bytes for the count and eight for every record, each of
which found room that was there from the start. -/
structure Paid (bytes : Bytes) (declared : Nat) (pass : Pass) : Prop where
  paid : 4 + 8 * pass.found.length ≤ pass.offset
  rounds : pass.rounds ≤ pass.found.length + 1
  room : pass.room = reserve bytes declared
  fits : pass.found.length ≤ pass.room
  moves : pass.moves = 0

/-- What was paid for stays so while a pass goes on. -/
theorem Paid.advance {declared least : Nat} (paid : pass.Paid bytes declared)
    (advances : pass.Advances least after) : after.Paid bytes declared where
  paid := by
    -- Going on pays for no record, and it only makes the place larger.
    have before := paid.paid
    have further := advances.further
    rw [advances.found]
    omega
  -- No round is begun and no record is found on the way.
  rounds := by rw [advances.rounds, advances.found]; exact paid.rounds
  room := advances.room.trans paid.room
  fits := by rw [advances.found, advances.room]; exact paid.fits
  moves := advances.moves.trans paid.moves

/-- A pass through the loop answers what reading the records does. -/
inductive Loads (bytes : Bytes) (declared : Nat) :
    Except DescriptorError (Array RegionRecord × Reader) → Except Halt Unit × Pass → Prop
  | refused (error : DescriptorError) {after : Pass} (sound : after.Sound bytes)
    (paid : after.Paid bytes declared) :
    Loads bytes declared (.error error) (.error (.refused error), after)
  | loaded {reader : Reader} {after : Pass} (follows : after.Follows bytes reader)
    (paid : after.Paid bytes declared) :
    Loads bytes declared (.ok (after.found.toArray, reader)) (.ok (), after)

/-- A pass stands at the head of the loop, where a round has been made for every record found. -/
structure AtHead (bytes : Bytes) (declared : Nat) (reader : Reader) (pass : Pass) : Prop where
  follows : pass.Follows bytes reader
  paid : pass.Paid bytes declared
  rounds : pass.rounds = pass.found.length

/-- A round that has read a record leads back to the head of the loop. The record finds room, since
its eight bytes are among those the room was reckoned from. -/
theorem AtHead.push {declared : Nat} (record : RegionRecord)
    (follows : pass.Follows bytes reader) (paid : pass.Paid bytes declared)
    (rounds : pass.rounds = pass.found.length + 1)
    (earned : 4 + 8 * (pass.found.length + 1) ≤ pass.offset)
    (fewer : pass.found.length < declared) :
    (pass.push record).AtHead bytes declared reader ∧
      (pass.push record).found = pass.found ++ [record] := by
  -- The room was reckoned from the length of the input, of which this record took eight bytes.
  have within := follows.sound.within
  have room := paid.room
  have free : pass.found.length < pass.room := by
    rw [room, reserve]
    omega
  have longer : (pass.found ++ [record]).length = pass.found.length + 1 := by simp
  rw [Pass.push, if_pos free]
  -- The place is the same, and each of the books has one record more.
  refine ⟨⟨⟨⟨within, follows.sound.rising, follows.sound.behind⟩, follows.stands⟩, ?_, ?_⟩, rfl⟩
  · exact {
      paid := by rw [longer]; exact earned
      rounds := by rw [longer, rounds]; exact Nat.le_succ _
      room := room
      fits := by rw [longer]; exact free
      moves := paid.moves }
  · exact rounds.trans longer.symm

/-- The loop reads what the reader does, and every round but the last leaves a record behind. -/
theorem records_loads (wide : 32 ≤ width) (held : bytes.length < 2 ^ width) {declared : Nat}
    (count : Nat) (head : pass.AtHead bytes declared reader)
    (ahead : pass.found.length + count ≤ declared) :
    Loads bytes declared (Reader.records count reader pass.found.toArray)
      (pass.records width bytes count) := by
  -- The induction is on the rounds that are left, and the head of the loop is what it keeps.
  induction count generalizing pass reader with
  | zero => exact .loaded head.follows head.paid
  -- No round is left, so the pass stands where it did.
  | succ count ih =>
    have sound := head.follows.sound
    -- Entering a round only counts it, which neither the place nor the books depend on.
    have entered : { pass with rounds := pass.rounds + 1 }.Follows bytes reader :=
      ⟨⟨sound.within, sound.rising, sound.behind⟩, head.follows.stands⟩
    have counted : { pass with rounds := pass.rounds + 1 }.Paid bytes declared :=
      { head.paid with rounds := Nat.le_of_eq (congrArg (· + 1) head.rounds) }
    -- The record is read by both, or it fails for both.
    have read := record_mirrors wide held entered
    rw [Reader.records, records]
    generalize reader.record = plain at read ⊢
    generalize { pass with rounds := pass.rounds + 1 }.record width bytes = passed at read ⊢
    cases read with
    | refused error sound advances => exact .refused error sound (counted.advance advances)
    | @answered record reader after follows advances =>
      -- What was paid for before and the bytes of this record pay for one record more.
      have found : after.found = pass.found := advances.found
      have before : 4 + 8 * pass.found.length ≤ pass.offset := head.paid.paid
      have further : pass.offset + 8 ≤ after.offset := advances.further
      have rounds : after.rounds = after.found.length + 1 := by
        rw [advances.rounds, found, ← head.rounds]
      obtain ⟨next, table⟩ := AtHead.push record follows (counted.advance advances) rounds
        (by rw [found]; omega) (by rw [found]; omega)
      have rest := ih next (by rw [table, List.length_append, found, List.length_singleton]; omega)
      -- Both tables have the record at their end.
      have same : (after.push record).found.toArray = pass.found.toArray.push record := by
        rw [table, found, List.push_toArray]
      rw [same] at rest
      exact rest

end Pass

/-- With fewer than four bytes there is no count, and nothing is begun. -/
theorem traverse_of_few (width : Nat) {bytes : Bytes} (few : bytes.length < 4) :
    traverse width bytes = (.error (.refused (.truncated 0 4 bytes.length)), {}) := by
  -- The first four bytes cannot be taken, and the pass stops before it has any room.
  have refused : ({} : Pass).take width bytes 4 =
      (.error (.refused (.truncated 0 4 bytes.length)), {}) :=
    Pass.take_of_few width (Nat.zero_le _) few
  rw [traverse, Pass.word, refused]

/-- A pass that has read the count stands at the head of the loop, with the room it asks for. -/
theorem atHead_of_count {bytes : Bytes} {reader : Reader} {pass : Pass} (count : Nat)
    (follows : pass.Follows bytes reader) (advances : ({} : Pass).Advances 4 pass) :
    { pass with room := reserve bytes count }.AtHead bytes count reader := by
  -- No record has been found, so the four bytes of the count are all that has to be paid for.
  have sound := follows.sound
  have found : pass.found = [] := advances.found
  have further : 4 ≤ pass.offset := by simpa using advances.further
  refine ⟨⟨⟨sound.within, sound.rising, sound.behind⟩, follows.stands⟩, ?_, ?_⟩
  · exact {
      paid := by simpa [found] using further
      rounds := by simp [found, advances.rounds]
      room := rfl
      fits := by simp [found]
      moves := advances.moves }
  · exact advances.rounds.trans (by simp [found])

/-- With a count in front, a pass answers what the reader does, and all it takes is paid for. -/
theorem traverse_paid {width : Nat} (wide : 32 ≤ width) {bytes front rest : Bytes}
    (held : bytes.length < 2 ^ width) (four : front.length = 4) (whole : bytes = front ++ rest) :
    (traverse width bytes).1 = (parse bytes).mapError .refused ∧
      (traverse width bytes).2.Sound bytes ∧
      (traverse width bytes).2.Paid bytes (Bytes.value front) := by
  -- The pass begins where the reader does.
  have start : ({} : Pass).Follows bytes ⟨0, bytes⟩ :=
    ⟨⟨Nat.zero_le _, List.pairwise_singleton _ _, by simp⟩, rfl⟩
  have read := Pass.word_mirrors held start
  -- The count is there, and the reader has it behind the first four bytes.
  have count : (Reader.mk 0 bytes).word =
      .ok (UInt32.ofNat (Bytes.value front), ⟨0 + 4, rest⟩) := by
    rw [whole]
    exact Reader.word_append four 0 rest
  have declared := Reader.toNat_ofNat_value four
  have kept : Bytes.value front % 2 ^ width = Bytes.value front := by
    rw [← declared]
    exact toNat_mod_word wide _
  rw [count] at read
  rw [traverse, parse, count]
  generalize ({} : Pass).word width bytes = passed at read ⊢
  -- The pass has read the same count, so the loop is entered with it.
  cases read with
  | @answered _ _ after follows advances =>
    have head := atHead_of_count (Bytes.value front) follows advances
    have found : after.found = [] := advances.found
    have loads := Pass.records_loads wide held (Bytes.value front) head (by simp [found])
    -- The table begins empty, with the room that was reckoned.
    have empty : (Array.mkEmpty (reserve bytes (Bytes.value front)) : Array RegionRecord) =
        { after with room := reserve bytes (Bytes.value front) }.found.toArray := by
      simp [found]
    simp only [declared, kept, empty]
    generalize Reader.records _ _ _ = plain at loads ⊢
    generalize Pass.records _ _ _ _ = passed at loads ⊢
    -- The loop stops at a record that is cut off, or it has read all that were announced.
    cases loads with
    | refused error sound paid => exact ⟨rfl, sound, paid⟩
    | @loaded reader last follows paid =>
      -- What is left of the input is what is left for the reader.
      have left : difference? bytes.length last.offset = some (bytes.length - last.offset) :=
        if_pos follows.sound.within
      have trailing : reader.rest.length = bytes.length - last.offset := by
        rw [follows.stands, List.length_drop]
      simp only [left]
      -- Nothing may be left behind the last record.
      cases behind : bytes.length - last.offset with
      | zero =>
        have empty : reader.rest.isEmpty := by
          rw [List.isEmpty_iff_length_eq_zero, trailing, behind]
        rw [if_pos empty]
        exact ⟨rfl, follows.sound, paid⟩
      | succ more =>
        have remains : ¬reader.rest.isEmpty := by
          rw [List.isEmpty_iff_length_eq_zero, trailing, behind]
          exact Nat.succ_ne_zero more
        rw [if_neg remains, trailing, behind]
        exact ⟨rfl, follows.sound, paid⟩

/-- Whatever a descriptor claims of itself, with words of 32 bits or more that count its bytes:
reading it takes no difference below zero, no sum past a word and no slice past the end, and comes
to what the reader comes to. It never goes back, and stands at places of the input only. The loop
is entered once for every eight bytes behind the count and at most once more, and the room set
aside at the start is enough for every record found, so that the table is never moved. -/
theorem traverse_bounded (width : Nat) (wide : 32 ≤ width) (bytes : Bytes)
    (held : bytes.length < 2 ^ width) :
    let answer := (traverse width bytes).1
    let pass := (traverse width bytes).2
    answer = (parse bytes).mapError .refused ∧
      pass.places.Pairwise (· ≤ ·) ∧ (∀ place ∈ pass.places, place ≤ pass.offset) ∧
      pass.offset ≤ bytes.length ∧ pass.rounds ≤ (bytes.length - 4) / 8 + 1 ∧
      (4 ≤ bytes.length →
        pass.room = min (Bytes.value (bytes.take 4)) (bytes.length / 8)) ∧
      pass.found.length ≤ pass.room ∧ pass.room ≤ bytes.length / 8 ∧ pass.moves = 0 := by
  intro answer pass
  -- There is a count, or there are too few bytes for one.
  rcases four_or_fewer bytes with few | ⟨front, rest, four, whole⟩
  · -- There is no count, so neither the loop nor the table is reached.
    have ended := traverse_of_few width few
    have refused : parse bytes = .error (.truncated 0 4 bytes.length) := by
      simp only [parse, Reader.word_of_few few]
    have nothing : pass = {} := congrArg Prod.snd ended
    have same : answer = (parse bytes).mapError .refused := by
      rw [refused]
      exact congrArg Prod.fst ended
    rw [nothing]
    refine ⟨same, List.pairwise_singleton _ _, by simp, Nat.zero_le _, Nat.zero_le _, ?_,
      Nat.le_refl _, Nat.zero_le _, rfl⟩
    -- There are no four bytes, so nothing is said of the room.
    intro enough
    omega
  · obtain ⟨same, sound, paid⟩ := traverse_paid wide held four whole
    -- Every bound follows from what was paid for the records and from where the pass stands.
    have spent : 4 + 8 * pass.found.length ≤ pass.offset := paid.paid
    have within : pass.offset ≤ bytes.length := sound.within
    have rounds : pass.rounds ≤ pass.found.length + 1 := paid.rounds
    have count : bytes.take 4 = front := by
      rw [whole, ← four]
      exact List.take_left
    have room : pass.room = min (Bytes.value front) (bytes.length / 8) := paid.room
    refine ⟨same, sound.rising, sound.behind, within, by omega, ?_, paid.fits, ?_, paid.moves⟩
    · intro enough
      rw [count]
      exact room
    -- The room is no more than the input has records of eight bytes for.
    · rw [room]
      exact Nat.min_le_right ..

/-- The largest count there is, in front of one empty record and half of another, read with words of
32 bits. -/
theorem traverse_bounded_of_largest_count :
    let bytes : Bytes := Bytes.littleEndian 4 (2 ^ 32 - 1) ++ encodeRecord ⟨7, []⟩ ++ [1, 0, 0, 0]
    let pass := (traverse 32 bytes).2
    32 ≤ 32 ∧ bytes.length < 2 ^ 32 ∧
      (traverse 32 bytes).1 = .error (.refused (.truncated 16 4 0)) ∧
      pass.places = [0, 4, 8, 12, 12, 16] ∧ pass.rounds = 2 ∧ pass.room = 2 ∧
      pass.found = [⟨7, []⟩] ∧ pass.rounds ≤ (bytes.length - 4) / 8 + 1 ∧
      pass.found.length ≤ pass.room ∧ pass.moves = 0 := by
  -- The pass over these bytes is evaluated, and its bounds are taken from the theorem.
  intro bytes pass
  have held : bytes.length < 2 ^ 32 := by decide
  obtain ⟨_, _, _, _, rounds, _, fits, _, moves⟩ := traverse_bounded 32 (Nat.le_refl 32) bytes held
  have run : traverse 32 bytes = (.error (.refused (.truncated 16 4 0)),
      { offset := 16, places := [0, 4, 8, 12, 12, 16], rounds := 2, found := [⟨7, []⟩], room := 2,
        moves := 0 }) := by
    cbv
  have answer := congrArg Prod.fst run
  have books : pass = _ := congrArg Prod.snd run
  exact ⟨Nat.le_refl 32, held, answer, congrArg Pass.places books, congrArg Pass.rounds books,
    congrArg Pass.room books, congrArg Pass.found books, rounds, fits, moves⟩

end CallGate.Descriptor
