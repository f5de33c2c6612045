import CallGate.Proofs.Json.Record

/-! What is written is well-formed, and spells what it was written for. -/

namespace CallGate.Json

open Numeral

/-- A control character is written by the four digits of its number. -/
theorem hexWord_control {number : Nat} (small : number < 0x20) :
    HexWord ['0', '0', digit (number / 16), digit (number % 16)] number := by
  -- Below thirty-two, a number has two hexadecimal digits of its own and two zeros before them.
  have high := digitValue?_digit (Nat.le_refl 16) (show number / 16 < 16 by omega)
  have low := digitValue?_digit (Nat.le_refl 16) (show number % 16 < 16 by omega)
  refine ⟨[0, 0, number / 16, number % 16], ?_, rfl, ?_⟩
  · exact .cons rfl (.cons rfl (.cons high (.cons low .nil)))
  · simp only [value, List.foldl_cons, List.foldl_nil]
    omega

/-- A character is written by an escape with a letter, by number, or as it is. -/
theorem writeCharacter_cases (c : Char) :
    (∃ letter, escapes.lookup letter = some c ∧ writeCharacter c = ['\\', letter]) ∨
      (c.toNat < 0x20 ∧ writeCharacter c =
        ['\\', 'u', '0', '0', digit (c.toNat / 16), digit (c.toNat % 16)]) ∨
      (c ≠ '"' ∧ c ≠ '\\' ∧ 0x20 ≤ c.toNat ∧ writeCharacter c = [c]) := by
  -- The choices are made in the order of the writer.
  unfold writeCharacter
  split_ifs with quote backslash back feed line carriage tab control
  -- The first seven characters are looked up in the table of escapes.
  iterate 7
    subst c
    exact .inl ⟨_, by rfl, rfl⟩
  · exact .inr (.inl ⟨control, rfl⟩)
  · exact .inr (.inr ⟨quote, backslash, Nat.not_lt.mp control, rfl⟩)

/-- A character that is written spells itself. -/
theorem spelledTail_writeCharacter (c : Char) {characters text : List Char}
    (tail : SpelledTail characters text) :
    SpelledTail (c :: characters) (writeCharacter c ++ text) := by
  obtain ⟨letter, known, written⟩ | ⟨control, written⟩ | ⟨quote, backslash, printable, written⟩ :=
    writeCharacter_cases c
  -- An escape with a letter is looked up again, by the same table.
  · rw [written]
    exact .escaped (.named known) tail
  -- An escape by number is read as the number it was written with.
  · have escape := Escape.numbered (hexWord_control control) (.inl (by omega))
    rw [Char.ofNat_toNat] at escape
    rw [written]
    exact .escaped escape tail
  -- A character that is written as it is needs no escape.
  · rw [written]
    exact .plain quote backslash printable tail

/-- A string that is written spells itself. -/
theorem spelled_writeText (text : String) : SpelledText text (writeText text) := by
  -- Induction on the characters, with the closing quote behind the last one.
  have general (characters : List Char) :
      SpelledTail characters (characters.flatMap writeCharacter ++ ['"']) := by
    induction characters with
    | nil => exact .closed
    | cons c characters ih =>
      rw [List.flatMap_cons, List.append_assoc]
      exact spelledTail_writeCharacter c ih
  exact .quoted (general text.toList)

/-- A string that is written, or the word for nothing, spells itself. -/
theorem spelled_writeOptionalText (text : Option String) :
    SpelledOption text (writeOptionalText text) := by
  -- The word for nothing spells nothing, and a string spells itself.
  cases text with
  | none => exact .none
  | some text => exact .some (spelled_writeText text)

/-- What begins an object may also come behind a comma. -/
theorem Items.comma {α : Type} {Item : α → List Char → Prop} {closing : Char} {item : α}
    {items : List α} {text : List Char} (left : Items Item closing true (item :: items) text) :
    Items Item closing false (item :: items) (',' :: text) := by
  -- Something is left, so it is the first of the items that the comma comes before.
  cases left with
  | first head tail => exact .next blanks_nil head tail

/-- A member as it is written. -/
def writeMember (member : String × List Char) : List Char :=
  writeText member.1 ++ ':' :: member.2

/-- A member that is written has no blanks. -/
theorem named_writeMember (member : String × List Char) : Named member (writeMember member) :=
  ⟨[], writeText member.1, [], [], blanks_nil, spelled_writeText member.1, blanks_nil, blanks_nil,
    rfl⟩

/-- Members that are written with commas between them are those of an object. -/
theorem items_writeMember (members : List (String × List Char)) :
    Items Named '\x7d' true members ([','].intercalate (members.map writeMember) ++ ['\x7d']) := by
  -- Induction on the members, with the case of a single one apart since it has no comma.
  induction members with
  | nil => exact .closed blanks_nil
  | cons member members ih =>
    have head := named_writeMember member
    cases members with
    | nil => simpa [List.intercalate] using Items.first head (.closed blanks_nil)
    | cons next members =>
      -- A comma stands between the first member and the others.
      have joined := Items.first head ih.comma
      simpa [List.intercalate, List.intersperse] using joined

/-- An object that is written has the members it was written for. -/
theorem isObject_writeObject {members : List (String × List Char)}
    (all : ∀ member ∈ members, IsValue member.2) : IsObject members (writeObject members) := by
  -- The writer puts no blanks anywhere, and blanks may be missing everywhere.
  have object := IsObject.braced blanks_nil (items_writeMember members) all blanks_nil
  rw [List.append_nil] at object
  exact object

end CallGate.Json
