import CallGate.Json.Read
import CallGate.Json.Write
import CallGate.Proofs.Json.Skip

/-! Which values are read as strings and as natural numbers, and as which. -/

namespace CallGate.Json

open Numeral

/-- Two steps succeed if both do, the second with what the first gives. -/
theorem bind_eq_ok_iff {α β : Type} {first : Except Fault α} {second : α → Except Fault β}
    {result : β} :
    (first >>= second) = .ok result ↔ ∃ found, first = .ok found ∧ second found = .ok result := by
  -- Without a first result there is no second step.
  cases first with
  | error fault => simp [bind, Except.bind]
  | ok found => simp [bind, Except.bind]

/-- A result is changed if there is one. -/
theorem map_eq_ok_iff {α β : Type} {read : Except Fault α} {change : α → β} {result : β} :
    read.map change = .ok result ↔ ∃ found, read = .ok found ∧ change found = result := by
  -- Only a result that is there can be changed.
  cases read with
  | error fault => simp [Except.map]
  | ok found => simp [Except.map]

/-! ## Strings -/

/-- An escape, behind its backslash, with the character it stands for.

Characters past the first plane take two numbered escapes, one for each of their surrogates. -/
inductive Escape : Char → List Char → Prop where
  | named {letter meaning : Char} (known : escapes.lookup letter = some meaning) :
      Escape meaning [letter]
  | numbered {digits : List Char} {number : Nat} (word : HexWord digits number)
      (single : number < 0xD800 ∨ 0xDFFF < number) : Escape (Char.ofNat number) ('u' :: digits)
  | paired {front back : List Char} {high low : Nat} (first : HexWord front high)
      (second : HexWord back low) (upper : 0xD800 ≤ high ∧ high ≤ 0xDBFF)
      (lower : 0xDC00 ≤ low ∧ low ≤ 0xDFFF) :
      Escape (Char.ofNat (0x10000 + (high - 0xD800) * 0x400 + (low - 0xDC00)))
        ('u' :: (front ++ '\\' :: 'u' :: back))

/-- The characters of a string with a spelling of them, up to and over the closing quote. -/
inductive SpelledTail : List Char → List Char → Prop where
  | closed : SpelledTail [] ['"']
  | plain {c : Char} {characters text : List Char} (quote : c ≠ '"') (backslash : c ≠ '\\')
      (printable : 0x20 ≤ c.toNat) (tail : SpelledTail characters text) :
      SpelledTail (c :: characters) (c :: text)
  | escaped {c : Char} {characters piece text : List Char} (escape : Escape c piece)
      (tail : SpelledTail characters text) :
      SpelledTail (c :: characters) ('\\' :: (piece ++ text))

/-- A string with a spelling of it in quotes. -/
inductive SpelledText (string : String) : List Char → Prop where
  | quoted {text : List Char} (tail : SpelledTail string.toList text) :
      SpelledText string ('"' :: text)

/-- A string with a spelling of it, or nothing with the word for it. -/
inductive SpelledOption : Option String → List Char → Prop where
  | none : SpelledOption none ['n', 'u', 'l', 'l']
  | some {string : String} {text : List Char} (spelled : SpelledText string text) :
      SpelledOption (some string) text

/-- Four hexadecimal digits are read from the front, and what follows is dropped to. -/
theorem hexWord_drop_iff {text rest : List Char} {number : Nat} :
    hexWord text = .ok number ∧ text.drop 4 = rest ↔
      ∃ front, text = front ++ rest ∧ HexWord front number := by
  -- Both say that the digits are the four characters in front of the rest.
  constructor
  · rintro ⟨read, rfl⟩
    obtain ⟨front, word, whole⟩ := hexWord_eq_ok_iff.mp read
    exact ⟨front, whole, word⟩
  · rintro ⟨front, rfl, word⟩
    exact word.read rest

/-- A numbered escape is read as the character it stands for, and nothing else is. -/
theorem numbered_eq_ok_iff {text rest : List Char} {c : Char} :
    numbered text = .ok (c, rest) ↔ ∃ piece, text = piece ++ rest ∧ Escape c ('u' :: piece) := by
  constructor
  · intro read
    unfold numbered at read
    obtain ⟨high, first, read⟩ := bind_eq_ok_iff.mp read
    obtain ⟨front, whole, upper⟩ := hexWord_drop_iff.mp ⟨first, rfl⟩
    simp only at read
    split at read
    · -- A high surrogate is followed by an escape for a low one.
      rename_i surrogate
      obtain ⟨behind, marked, read⟩ := bind_eq_ok_iff.mp read
      obtain ⟨low, second, read⟩ := bind_eq_ok_iff.mp read
      obtain ⟨back, other, lower⟩ := hexWord_drop_iff.mp ⟨second, rfl⟩
      split at read
      · rename_i range
        obtain ⟨rfl, rfl⟩ := Prod.mk.inj (Except.ok.inj read)
        refine ⟨front ++ '\\' :: 'u' :: back, ?_, .paired upper lower surrogate range⟩
        rw [List.append_assoc, List.cons_append, List.cons_append, ← other]
        exact whole.trans (congrArg (front ++ ·) (word_eq_ok_iff.mp marked))
      · cases read
    -- Any other number stands for its own character, unless it is half of a pair.
    · rename_i outside
      obtain ⟨meaning, single, read⟩ := bind_eq_ok_iff.mp read
      obtain ⟨rfl, rfl⟩ := Prod.mk.inj (Except.ok.inj read)
      unfold plain at single
      split at single
      · cases single
      · obtain rfl := Except.ok.inj single
        exact ⟨front, whole, .numbered upper (by omega)⟩
  · -- One word of digits stands for a character of its own, and two do so together.
    rintro ⟨piece, rfl, escape⟩
    cases escape with
    | named known =>
      rw [escapes_lookup_u] at known
      cases known
    | @numbered digits number word single =>
      obtain ⟨read, behind⟩ := word.read rest
      simp only [numbered, bind, Except.bind, read, behind]
      rw [if_neg (by omega), plain, if_neg (by omega)]
      rfl
    | @paired front back high low first second upper lower =>
      obtain ⟨read, behind⟩ := first.read ('\\' :: 'u' :: (back ++ rest))
      obtain ⟨other, last⟩ := second.read rest
      have marked : word ['\\', 'u'] ('\\' :: 'u' :: (back ++ rest)) = .ok (back ++ rest) :=
        word_append ['\\', 'u'] _
      simp only [numbered, bind, Except.bind, List.append_assoc, List.cons_append, read, behind,
        if_pos upper, marked, other, if_pos lower, last]
      rfl

/-- An escape is read as the character it stands for, and nothing else is. -/
theorem escape_eq_ok_iff {text rest : List Char} {c : Char} :
    escape text = .ok (c, rest) ↔ ∃ piece, text = piece ++ rest ∧ Escape c piece := by
  -- The letter behind the backslash tells a numbered escape from a named one.
  constructor
  · intro read
    unfold escape at read
    split at read
    · cases read
    · obtain ⟨piece, rfl, numbered⟩ := numbered_eq_ok_iff.mp read
      exact ⟨'u' :: piece, rfl, numbered⟩
    · rename_i letter behind _
      split at read
      · rename_i meaning known
        obtain ⟨rfl, rfl⟩ := Prod.mk.inj (Except.ok.inj read)
        exact ⟨[letter], rfl, .named known⟩
      · cases read
  · rintro ⟨piece, rfl, escape⟩
    -- An escape is numbered if its letter says so, and is looked up by its letter otherwise.
    have numbers {digits : List Char} (numbered : Escape c ('u' :: digits)) :
        Json.escape ('u' :: digits ++ rest) = .ok (c, rest) :=
      numbered_eq_ok_iff.mpr ⟨digits, rfl, numbered⟩
    cases escape with
    | @named letter _ known =>
      have named : letter ≠ 'u' := by
        rintro rfl
        rw [escapes_lookup_u] at known
        cases known
      simp only [List.cons_append, List.nil_append, Json.escape, known]
    | numbered word single => exact numbers (.numbered word single)
    | paired first second upper lower => exact numbers (.paired first second upper lower)

/-- A spelled string is well-formed. -/
theorem SpelledTail.isTail {characters text : List Char} (spelled : SpelledTail characters text) :
    IsTail text := by
  -- Induction on the spelling, each character of which is a letter of a string.
  induction spelled with
  | closed => exact .closed
  | plain quote backslash printable _ ih => exact .more (.plain quote backslash printable) ih
  | @escaped c characters piece text escape tail ih =>
    cases escape with
    | named known => exact .more (.named known) ih
    | numbered word single => exact .more (.numbered word) ih
    -- A pair of escapes is two letters for one character.
    | paired first second upper lower =>
      rw [List.cons_append, List.append_assoc]
      exact .more (.numbered first) (.more (.numbered second) ih)

/-- Characters are read as they are spelled. -/
theorem SpelledTail.read {characters text : List Char} (spelled : SpelledTail characters text)
    {room : Nat} (enough : text.length ≤ room) (rest : List Char) :
    Json.characters room (text ++ rest) = .ok (characters, rest) := by
  -- Each character takes one turn, whether it is escaped or not.
  induction spelled generalizing room with
  | closed =>
    obtain ⟨room, rfl⟩ := Nat.exists_eq_add_one.mpr (show 0 < room from enough)
    rfl
  | plain quote backslash printable _ ih =>
    rw [List.length_cons] at enough
    obtain ⟨room, rfl⟩ := Nat.exists_eq_add_one.mpr (show 0 < room by omega)
    simp only [List.cons_append, Json.characters, if_neg quote, if_neg backslash,
      if_neg (Nat.not_lt.mpr printable), ih (show _ ≤ room by omega)]
    rfl
  | @escaped c characters piece text escape _ ih =>
    rw [List.length_cons, List.length_append] at enough
    obtain ⟨room, rfl⟩ := Nat.exists_eq_add_one.mpr (show 0 < room by omega)
    have meaning : Json.escape (piece ++ (text ++ rest)) = .ok (c, text ++ rest) :=
      escape_eq_ok_iff.mpr ⟨piece, rfl, escape⟩
    rw [List.cons_append, List.append_assoc, Json.characters, if_neg (by decide), if_pos rfl,
      meaning]
    simp only [bind, Except.bind, ih (show _ ≤ room by omega)]
    rfl

/-- Whatever characters are read, they are spelled. -/
theorem exists_spelled_of_characters {room : Nat} {characters text rest : List Char}
    (read : Json.characters room text = .ok (characters, rest)) :
    ∃ front, text = front ++ rest ∧ SpelledTail characters front := by
  -- What one turn takes off the text is put in front of the spelling of the others.
  induction room generalizing characters text with
  | zero => cases read
  | succ room ih =>
    cases text with
    | nil => cases read
    | cons c text =>
      rw [Json.characters] at read
      -- The first character is the closing quote, a backslash, or neither.
      split at read
      · rename_i quote
        obtain ⟨rfl, rfl⟩ := Prod.mk.inj (Except.ok.inj read)
        exact ⟨['"'], by rw [quote]; rfl, .closed⟩
      · rename_i quote
        split at read
        · rename_i backslash
          obtain ⟨⟨meaning, behind⟩, escape, read⟩ := bind_eq_ok_iff.mp read
          obtain ⟨⟨others, last⟩, more, read⟩ := bind_eq_ok_iff.mp read
          obtain ⟨rfl, rfl⟩ := Prod.mk.inj (Except.ok.inj read)
          obtain ⟨piece, rfl, escaped⟩ := escape_eq_ok_iff.mp escape
          obtain ⟨front, rfl, tail⟩ := ih more
          exact ⟨'\\' :: (piece ++ front), by simp [backslash], .escaped escaped tail⟩
        · rename_i backslash
          split at read
          · cases read
          -- A plain character may be anything that is printable.
          · rename_i printable
            obtain ⟨⟨others, last⟩, more, read⟩ := bind_eq_ok_iff.mp read
            obtain ⟨rfl, rfl⟩ := Prod.mk.inj (Except.ok.inj read)
            obtain ⟨front, rfl, tail⟩ := ih more
            exact ⟨c :: front, rfl, .plain quote backslash (Nat.not_lt.mp printable) tail⟩

/-- A string behind its opening quote is read as it is spelled, and nothing else is. -/
theorem stringTail_eq_ok_iff {text rest : List Char} {string : String} :
    stringTail text = .ok (string, rest) ↔
      ∃ front, text = front ++ rest ∧ SpelledTail string.toList front := by
  -- Reading is granted as many turns as there are characters, which is enough for any spelling.
  constructor
  · intro read
    unfold stringTail at read
    obtain ⟨⟨characters, behind⟩, found, read⟩ := bind_eq_ok_iff.mp read
    obtain ⟨rfl, rfl⟩ := Prod.mk.inj (Except.ok.inj read)
    obtain ⟨front, whole, spelled⟩ := exists_spelled_of_characters found
    exact ⟨front, whole, by simpa using spelled⟩
  · rintro ⟨front, rfl, spelled⟩
    have read := spelled.read (show front.length ≤ (front ++ rest).length by simp) rest
    simp only [stringTail, read, bind, Except.bind]
    simp [pure, Except.pure]

/-! ## Numbers -/

namespace Number

/-- Appending digits to a number does not make it smaller. -/
theorem le_foldl (number : Nat) (digits : List Nat) :
    number ≤ digits.foldl (fun number digit => number * 10 + digit) number := by
  -- Induction on the digits, each of which makes the number no smaller.
  induction digits generalizing number with
  | nil => exact Nat.le_refl _
  | cons digit digits ih =>
    exact Nat.le_trans (show number ≤ number * 10 + digit by omega) (ih _)

/-- Digits are absorbed to the last one just when the number they make fits in 64 bits. -/
theorem absorb_eq_iff {start number : Nat} {digits : List Nat} (small : start < UInt64.size) :
    absorb start digits = (number, []) ↔
      digits.foldl (fun number digit => number * 10 + digit) start = number ∧
        number < UInt64.size := by
  -- Induction on the digits, with what has been absorbed so far still below the limit.
  induction digits generalizing start with
  | nil =>
    simp only [absorb, List.foldl_nil, Prod.mk.injEq, and_true]
    exact ⟨fun same => ⟨same, same ▸ small⟩, And.left⟩
  | cons digit digits ih =>
    rw [absorb, List.foldl_cons]
    split
    · rename_i fits
      exact ih fits
    · -- A number that does not fit any more does not fit with further digits either.
      rename_i large
      have grows := le_foldl (start * 10 + digit) digits
      constructor
      · intro same
        cases (Prod.mk.inj same).2
      · rintro ⟨rfl, fits⟩
        omega

/-- The digits before the point are read, up to the first character that is none. -/
theorem whole_append {text rest : List Char} {values : List Nat} (first : Whole text values)
    (stops : Stops 10 rest) : whole (text ++ rest) = .ok (values, rest) := by
  -- All digits are split off, and a zero is alone because no digit follows it.
  have read : digits (text ++ rest) = .ok (values, rest) := by
    rw [digits, split_append first.digits stops]
    obtain ⟨value, others, rfl⟩ := List.exists_cons_of_ne_nil first.nonempty
    rfl
  -- A zero stands alone, so the character behind it is looked at and is no digit.
  obtain ⟨rfl, rfl⟩ | ⟨c, others, rfl, positive⟩ := first.zero_or
  · cases rest with
    | nil => rfl
    | cons c rest =>
      have other := digitValue?_eq_none_iff.mp (stops_cons.mp stops)
      simp only [List.cons_append, List.nil_append, whole, if_neg other]
      rfl
  · rw [whole]
    · exact read
    · rintro _ _ same
      exact positive (List.cons.inj same).1

/-- Digits alone are read as the natural number they make, if it fits in 64 bits. -/
theorem unsigned_whole {text rest : List Char} {values : List Nat} (first : Whole text values)
    (ends : Ends rest) (fits : value 10 values < UInt64.size) :
    unsigned (text ++ rest) = .ok (.natural (UInt64.ofNat (value 10 values)), rest) := by
  -- A number that fits is absorbed to its last digit.
  have absorbed : absorb 0 values = (value 10 values, []) :=
    (absorb_eq_iff (by decide)).mpr ⟨rfl, fits⟩
  simp only [unsigned, whole_append first ends.stops, bind, Except.bind, absorbed]
  -- Behind the digits stands nothing, or a character that no number goes on with.
  cases rest with
  | nil => rfl
  | cons c rest =>
    obtain ⟨-, point, small, large⟩ := ends_cons.mp ends
    split
    · rename_i same
      exact absurd (List.cons.inj same).1 point
    · rename_i same
      obtain ⟨rfl, rfl⟩ := List.cons.inj same
      rw [if_neg (by simp [small, large])]
      rfl
    · rename_i same
      cases same

/-- What is read to its end as any other number is no natural one. -/
theorem other_ne_natural {α : Type} {read : Except Fault α} {left : α → List Char} {word : UInt64}
    {rest : List Char} :
    (do let found ← read; return (Number.other, left found)) ≠ .ok (.natural word, rest) := by
  -- Neither way of reading comes to a natural number.
  cases read with
  | error fault => rintro ⟨⟩
  | ok found => rintro ⟨⟩

/-- A number that is read as a natural number is its digits alone. -/
theorem whole_of_unsigned {text rest behind : List Char} {word : UInt64}
    (well : IsUnsigned text) (ends : Ends rest)
    (read : unsigned (text ++ rest) = .ok (.natural word, behind)) :
    ∃ values, Whole text values ∧ value 10 values = word.toNat ∧ behind = rest := by
  -- The parts of the number are split, and the digits before the point are read first.
  obtain @⟨whole, fraction, exponent, values, first, second, third⟩ := well
  obtain ⟨stops, -⟩ := stops_fraction second third ends
  unfold unsigned at read
  rw [List.append_assoc, List.append_assoc, whole_append first stops] at read
  obtain ⟨⟨_, _⟩, found, read⟩ := bind_eq_ok_iff.mp read
  obtain ⟨rfl, rfl⟩ := Prod.mk.inj (Except.ok.inj found)
  cases second with
  | some digits nonempty =>
    -- Whatever the fraction is, the number is no longer a natural one.
    exact absurd read other_ne_natural
  | none =>
    -- The number has no fraction, and with an exponent it is no natural number either.
    cases third with
    | @some letter _ _ _ either signed digits nonempty =>
      have other : letter ≠ '.' := by
        rintro rfl
        exact absurd either (by decide)
      simp only [List.nil_append, List.cons_append, if_pos either] at read
      exact absurd read other_ne_natural
    | none =>
      -- Only digits that are all absorbed make a natural number.
      have last : (absorb 0 values).2.isEmpty ∧ word = UInt64.ofNat (absorb 0 values).1 ∧
          behind = rest := by
        simp only [List.nil_append] at read
        split at read
        · exact absurd read other_ne_natural
        · split at read
          · exact absurd read other_ne_natural
          · split at read
            · cases read
              exact ⟨‹_›, rfl, rfl⟩
            · exact absurd read other_ne_natural
        · split at read
          · cases read
            exact ⟨‹_›, rfl, rfl⟩
          · exact absurd read other_ne_natural
      obtain ⟨empty, rfl, rfl⟩ := last
      obtain ⟨made, fits⟩ := (absorb_eq_iff (by decide)).mp
        (Prod.ext rfl (List.isEmpty_iff.mp empty) : absorb 0 values = ((absorb 0 values).1, []))
      refine ⟨values, ?_, ?_, rfl⟩
      · simpa using first
      · rw [UInt64.toNat_ofNat_of_lt' fits]
        exact made

end Number

/-! ## Readers -/

/-- A reader takes, of all well-formed values, exactly those that spell what it reads. -/
structure Reads {α : Type} (read : Reader α) (Spells : α → List Char → Prop) : Prop where
  isValue : ∀ {value text}, Spells value text → IsValue text
  exact : ∀ {gap text rest}, Blanks gap → IsValue text → Ends rest → ∀ value behind,
    read (gap ++ (text ++ rest)) = .ok (value, behind) ↔ Spells value text ∧ behind = rest

/-- A spelled value is read from a text that is nothing else. -/
theorem Reads.complete {α : Type} {read : Reader α} {Spells : α → List Char → Prop}
    (reads : Reads read Spells) {value : α} {text : List Char} (spelled : Spells value text) :
    Json.complete read (String.ofList text) = .ok value := by
  -- A text that is nothing but the value has no blanks around it and nothing behind it.
  have found :=
    (reads.exact blanks_nil (reads.isValue spelled) ends_nil value []).mpr ⟨spelled, rfl⟩
  rw [List.nil_append, List.append_nil] at found
  simp only [Json.complete, String.toList_ofList, found, bind, Except.bind]
  rfl

/-- A value that begins with a quote is a string. -/
theorem IsValue.isTail {text : List Char} (well : IsValue ('"' :: text)) : IsTail text := by
  -- No other sort of value begins with a quote.
  obtain ⟨c, others, whole, sort⟩ := well.begins
  obtain ⟨rfl, rfl⟩ := List.cons.inj whole
  obtain ⟨-, ended⟩ | ⟨⟨value, below, same⟩, -⟩ | ⟨same, -⟩ | other := sort
  · exact ended
  · interval_cases value <;> cases same
  · cases same
  · exact absurd other (by decide)

/-- A value that begins with a digit is a number without a sign. -/
theorem IsValue.isUnsigned {c : Char} {text : List Char} (well : IsValue (c :: text))
    (digit : '0' ≤ c ∧ c ≤ '9') : IsUnsigned (c :: text) := by
  -- No other sort of value begins with a digit, and a minus sign is none.
  obtain ⟨d, others, whole, sort⟩ := well.begins
  obtain ⟨rfl, rfl⟩ := List.cons.inj whole
  obtain ⟨rfl, -⟩ | ⟨-, unsigned⟩ | ⟨rfl, -⟩ | other := sort
  · exact absurd digit (by decide)
  · exact unsigned
  · exact absurd digit (by decide)
  · simp only [List.mem_cons, List.not_mem_nil, or_false] at other
    obtain rfl | rfl | rfl | rfl | rfl := other <;> exact absurd digit (by decide)

/-- A value that begins like the word for nothing is that word. -/
theorem IsValue.eq_null {text : List Char} (well : IsValue ('n' :: text)) :
    text = ['u', 'l', 'l'] := by
  -- Of all values only the word begins with this letter.
  obtain ⟨c, others, whole, sort⟩ := well.begins
  obtain ⟨rfl, rfl⟩ := List.cons.inj whole
  obtain ⟨same, -⟩ | ⟨⟨value, below, same⟩, -⟩ | ⟨-, rfl⟩ | other := sort
  · cases same
  · interval_cases value <;> cases same
  · rfl
  · exact absurd other (by decide)

/-- The digits of a natural number may stand before a point. -/
theorem whole_writeNatural (number : Nat) : Whole (writeNatural number) (digits 10 number) where
  -- The digits of a number spell it, there is one at least, and zero is spelled alone.
  digits := digits_render (by decide) (by decide) number
  nonempty := digits_ne_nil 10 number
  leading := digits_of_zero_first

/-- A natural number below a bound, with the digits it is written in. -/
def SpelledNatural (bound : Nat) (word : UInt64) (text : List Char) : Prop :=
  word.toNat < bound ∧ text = writeNatural word.toNat

/-- A natural number below a bound is read from its digits, and from nothing else. -/
theorem reads_natural (bound : Nat) : Reads (natural bound) (SpelledNatural bound) where
  isValue := by
    -- Digits alone are a number, and so a value.
    rintro word text ⟨-, rfl⟩
    have parts := IsUnsigned.parts (whole_writeNatural word.toNat) .none .none
    exact .number (.positive (by simpa using parts))
  exact := by
    -- A value begins with a character that is no blank, and that character decides.
    intro gap text rest blanks well ends word behind
    obtain ⟨c, others, rfl, visible, -⟩ := well.exists_cons
    rw [natural, List.cons_append, skipBlanks_append_cons blanks visible]
    simp only
    constructor
    · -- Only a number without a sign is looked at, and only digits alone are natural.
      intro read
      split at read
      · rename_i digit
        split at read
        · cases read
        · cases read
        · rename_i number
          split at read
          · rename_i below
            obtain ⟨rfl, rfl⟩ := Prod.mk.inj (Except.ok.inj read)
            obtain ⟨values, whole, same, rfl⟩ :=
              Number.whole_of_unsigned (well.isUnsigned digit) ends number
            refine ⟨⟨below, ?_⟩, rfl⟩
            rw [writeNatural, ← same]
            exact eq_render_of_digits whole.digits whole.nonempty whole.leading
          · cases read
      · cases read
    · -- The digits begin with a digit, and are absorbed to the last one.
      rintro ⟨⟨below, whole⟩, rfl⟩
      -- The first character of the digits is one of ten.
      have digit : '0' ≤ c ∧ c ≤ '9' := by
        obtain ⟨value, more, small, begins⟩ :=
          exists_digit (whole_writeNatural word.toNat).digits (digits_ne_nil 10 _)
        obtain rfl := (List.cons.inj (whole.trans begins)).1
        interval_cases value <;> decide
      have fits : value 10 (digits 10 word.toNat) < UInt64.size := by
        rw [value_digits]
        exact word.toNat_lt_size
      have number := Number.unsigned_whole (whole_writeNatural word.toNat) ends fits
      rw [← whole, List.cons_append, value_digits, UInt64.ofNat_toNat] at number
      rw [if_pos digit, number]
      simp only [if_pos below]

/-- Behind its opening quote, a string is read as what it spells. -/
theorem stringTail_of_isTail {text rest : List Char} (ended : IsTail text) (found : String)
    (behind : List Char) :
    stringTail (text ++ rest) = .ok (found, behind) ↔
      SpelledTail found.toList text ∧ behind = rest := by
  rw [stringTail_eq_ok_iff]
  constructor
  · rintro ⟨front, whole, spelled⟩
    -- Passing over the string in both of its readings leaves the same rest.
    have first := Skip.string_append ended (show text.length ≤ (text ++ rest).length by simp) rest
    have second := Skip.string_append spelled.isTail
      (show front.length ≤ (text ++ rest).length by simp [whole]) behind
    rw [← whole, first] at second
    obtain rfl := Except.ok.inj second
    rw [List.append_cancel_right whole]
    exact ⟨spelled, rfl⟩
  -- A spelling is read as what it spells.
  · rintro ⟨spelled, rfl⟩
    exact ⟨text, rfl, spelled⟩

/-- A string is read as what it spells. -/
theorem reads_text : Reads text SpelledText where
  isValue := by
    -- What spells a string is one.
    rintro found _ ⟨spelled⟩
    exact .string (.quoted spelled.isTail)
  exact := by
    intro gap value rest blanks well ends found behind
    obtain ⟨c, others, rfl, visible, -⟩ := well.exists_cons
    rw [text, List.cons_append, skipBlanks_append_cons blanks visible]
    -- Without a quote at the front, there is no string.
    by_cases quote : c = '"'
    · subst quote
      simp only [stringTail_of_isTail well.isTail]
      exact and_congr_left fun _ => ⟨.quoted, fun ⟨spelled⟩ => spelled⟩
    -- A string cannot be spelled without its quote.
    · constructor
      · intro read
        split at read
        · rename_i same
          exact absurd (List.cons.inj same).1 quote
        · cases read
      · rintro ⟨⟨spelled⟩, -⟩
        exact absurd rfl quote

/-- A string is read as what it spells, and the word for nothing as nothing. -/
theorem reads_optionalText : Reads optionalText SpelledOption where
  isValue := by
    -- Both the word for nothing and a string are values.
    rintro found _ (_ | spelled)
    · exact .word (by simp)
    · exact reads_text.isValue spelled
  exact := by
    intro gap value rest blanks well ends found behind
    obtain ⟨c, others, rfl, visible, -⟩ := well.exists_cons
    rw [optionalText, List.cons_append, skipBlanks_append_cons blanks visible]
    -- The first letter tells the word for nothing from a string.
    by_cases letter : c = 'n'
    · subst letter
      obtain rfl := well.eq_null
      simp only [map_eq_ok_iff, word_eq_ok_iff]
      constructor
      · rintro ⟨last, same, read⟩
        obtain ⟨rfl, rfl⟩ := Prod.mk.inj read
        exact ⟨.none, (List.append_cancel_left same).symm⟩
      · rintro ⟨nothing | ⟨⟨⟩⟩, rfl⟩
        exact ⟨_, rfl, rfl⟩
    -- The value is a string after all, and is read as one.
    · have string := reads_text.exact blanks_nil well ends
      rw [List.nil_append, List.cons_append] at string
      constructor
      · intro read
        split at read
        · rename_i same
          exact absurd (List.cons.inj same).1 letter
        · obtain ⟨⟨spelling, last⟩, taken, read⟩ := map_eq_ok_iff.mp read
          obtain ⟨rfl, rfl⟩ := Prod.mk.inj read
          obtain ⟨spelled, rfl⟩ := (string spelling last).mp taken
          exact ⟨.some spelled, rfl⟩
      · rintro ⟨nothing | spelled, rfl⟩
        · exact absurd rfl letter
        · split
          · rename_i same
            exact absurd (List.cons.inj same).1 letter
          · rw [(string _ _).mpr ⟨spelled, rfl⟩]
            rfl

end CallGate.Json
