import CallGate.Json.Skip
import CallGate.Proofs.Numeral

/-! What JSON values look like, and that passing over a value stops right behind it. -/

namespace CallGate.Json

open Numeral

/-! ## Blanks -/

/-- A text of blanks alone. -/
def Blanks (text : List Char) : Prop := ∀ c ∈ text, isBlank c = true

/-- No blanks are blanks as well. -/
theorem blanks_nil : Blanks [] := by
  simp [Blanks]

/-- Blanks at the front do not matter. -/
theorem skipBlanks_append {gap : List Char} (blanks : Blanks gap) (rest : List Char) :
    skipBlanks (gap ++ rest) = skipBlanks rest := by
  -- Induction on the blanks, which are taken off one by one.
  induction gap with
  | nil => rfl
  | cons c gap ih =>
    obtain ⟨blank, others⟩ := List.forall_mem_cons.mp blanks
    rw [List.cons_append, skipBlanks, if_pos blank, ih others]

/-- Any other character at the front stays. -/
theorem skipBlanks_cons {c : Char} (visible : isBlank c = false) (rest : List Char) :
    skipBlanks (c :: rest) = c :: rest := by
  -- The first character is no blank, so nothing is taken off.
  rw [skipBlanks, if_neg (by simp [visible])]

/-- The first character that is no blank is found behind any blanks. -/
theorem skipBlanks_append_cons {gap : List Char} (blanks : Blanks gap) {c : Char}
    (visible : isBlank c = false) (rest : List Char) :
    skipBlanks (gap ++ c :: rest) = c :: rest := by
  rw [skipBlanks_append blanks, skipBlanks_cons visible]

/-- A mark is found behind any blanks. -/
theorem mark_append {gap : List Char} (blanks : Blanks gap) {c : Char}
    (visible : isBlank c = false) (rest : List Char) : mark c (gap ++ c :: rest) = .ok rest := by
  -- Behind the blanks the mark is the next character there is.
  rw [mark, skipBlanks_append_cons blanks visible]
  exact if_pos rfl

/-- A word is passed over. -/
theorem word_append (expected rest : List Char) : word expected (expected ++ rest) = .ok rest := by
  -- Induction on the word, whose characters are compared one by one.
  induction expected with
  | nil => rfl
  | cons c expected ih => rw [List.cons_append, word, if_pos rfl, ih]

/-- Only a word itself is passed over. -/
theorem word_eq_ok_iff {expected text rest : List Char} :
    word expected text = .ok rest ↔ text = expected ++ rest := by
  -- Induction on the word: the text goes on with its first character, or it is refused there.
  induction expected generalizing text with
  | nil => simp [word]
  | cons c expected ih =>
    cases text with
    | nil => simp [word]
    | cons d text =>
      simp only [word, List.cons_append, List.cons.injEq]
      split
      · rename_i same
        simp [ih, same]
      · rename_i different
        simp [Ne.symm different]

/-! ## Strings -/

/-- Four hexadecimal digits with their value. -/
def HexWord (text : List Char) (number : Nat) : Prop :=
  ∃ values, Digits 16 text values ∧ text.length = 4 ∧ value 16 values = number

/-- Digits are looked up one by one. -/
theorem mapM_digitValue?_iff {radix : Nat} {text : List Char} {values : List Nat} :
    text.mapM (digitValue? radix) = some values ↔ Digits radix text values := by
  -- Induction on the text, since the looking up fails at the first character that is no digit.
  induction text generalizing values with
  | nil => simp [Digits, eq_comm]
  | cons c text ih =>
    simp only [List.mapM_cons, Option.pure_def, Option.bind_eq_bind, Option.bind_eq_some_iff,
      Option.some.injEq, ih]
    constructor
    · rintro ⟨value, digit, others, digits, rfl⟩
      exact .cons digit digits
    · rintro (_ | ⟨digit, digits⟩)
      exact ⟨_, digit, _, digits, rfl⟩

/-- A number is read from four hexadecimal digits at the front, and from nothing else. -/
theorem hexWord_eq_ok_iff {text : List Char} {number : Nat} :
    hexWord text = .ok number ↔ ∃ front, HexWord front number ∧ text = front ++ text.drop 4 := by
  constructor
  · intro read
    -- Either all four characters are digits, or there is no number.
    unfold hexWord at read
    split at read
    · rename_i values looked
      split at read
      · rename_i four
        obtain rfl := Except.ok.inj read
        have digits := mapM_digitValue?_iff.mp looked
        refine ⟨text.take 4, ⟨values, digits, ?_, rfl⟩, (List.take_append_drop 4 text).symm⟩
        rw [List.Forall₂.length_eq digits, four]
      · cases read
    · split at read <;> cases read
  -- The four digits at the front are the ones that are looked up.
  · rintro ⟨front, ⟨values, digits, four, rfl⟩, whole⟩
    have taken : text.take 4 = front := by
      rw [whole, ← four, List.take_left]
    have looked : (text.take 4).mapM (digitValue? 16) = some values := by
      rw [taken, mapM_digitValue?_iff]
      exact digits
    have few : values.length = 4 := by
      rw [← List.Forall₂.length_eq digits, four]
    simp only [hexWord, looked, if_pos few]

/-- Four digits at the front are read, and what follows is dropped to. -/
theorem HexWord.read {front : List Char} {number : Nat} (digits : HexWord front number)
    (rest : List Char) :
    hexWord (front ++ rest) = .ok number ∧ (front ++ rest).drop 4 = rest := by
  -- The digits are four characters, so dropping four leaves what stands behind them.
  obtain ⟨values, spelled, four, same⟩ := digits
  have behind : (front ++ rest).drop 4 = rest := by
    rw [← four, List.drop_left]
  exact ⟨hexWord_eq_ok_iff.mpr ⟨front, ⟨values, spelled, four, same⟩, by rw [behind]⟩, behind⟩

/-- One step within a string: a character, or an escape of either sort. -/
inductive Letter : List Char → Prop where
  | plain {c : Char} (quote : c ≠ '"') (backslash : c ≠ '\\') (printable : 0x20 ≤ c.toNat) :
      Letter [c]
  | named {letter meaning : Char} (known : escapes.lookup letter = some meaning) :
      Letter ['\\', letter]
  | numbered {digits : List Char} {number : Nat} (word : HexWord digits number) :
      Letter ('\\' :: 'u' :: digits)

/-- A string behind its opening quote, with the closing one. -/
inductive IsTail : List Char → Prop where
  | closed : IsTail ['"']
  | more {piece text : List Char} (letter : Letter piece) (tail : IsTail text) :
      IsTail (piece ++ text)

/-- A string in quotes. -/
inductive IsString : List Char → Prop where
  | quoted {text : List Char} (tail : IsTail text) : IsString ('"' :: text)

/-- The letter of a numbered escape names no character. -/
theorem escapes_lookup_u : escapes.lookup 'u' = none := by
  decide

/-- Passing over one letter of a string takes one turn. -/
theorem Skip.string_letter {piece : List Char} (letter : Letter piece) (room : Nat)
    (rest : List Char) : Skip.string (room + 1) (piece ++ rest) = Skip.string room rest := by
  -- A letter stands for itself, is named by another letter, or is numbered by four digits.
  cases letter with
  | plain quote backslash printable =>
    simp only [List.cons_append, List.nil_append, Skip.string, if_neg quote, if_neg backslash,
      if_neg (Nat.not_lt.mpr printable)]
  | @named letter meaning known =>
    -- The letter of a numbered escape names nothing, so this is not one.
    have named : letter ≠ 'u' := by
      rintro rfl
      rw [escapes_lookup_u] at known
      cases known
    have some : (escapes.lookup letter).isSome = true := by rw [known]; rfl
    simp only [List.cons_append, List.nil_append, Skip.string]
    rw [if_neg (by decide), if_pos trivial, if_pos some]
  | @numbered digits number word =>
    obtain ⟨read, behind⟩ := word.read rest
    simp only [List.cons_append, Skip.string, read, behind]
    rw [if_neg (by decide), if_pos trivial]

/-- Passing over a string stops right behind it. -/
theorem Skip.string_append {tail : List Char} (ended : IsTail tail) {room : Nat}
    (enough : tail.length ≤ room) (rest : List Char) :
    Skip.string room (tail ++ rest) = .ok rest := by
  -- Every letter takes one turn and at least one character, so the room lasts.
  induction ended generalizing room with
  | closed =>
    -- The closing quote takes a turn of its own.
    obtain ⟨room, rfl⟩ := Nat.exists_eq_add_one.mpr (show 0 < room from enough)
    simp [Skip.string]
  | @more piece text letter tail ih =>
    -- No letter is spelled with nothing, which is what makes the room smaller for the rest.
    have some : 0 < piece.length := by cases letter <;> simp
    rw [List.length_append] at enough
    obtain ⟨room, rfl⟩ := Nat.exists_eq_add_one.mpr (show 0 < room by omega)
    rw [List.append_assoc, Skip.string_letter letter, ih (by omega)]

/-! ## Numbers -/

/-- The digits before the point, of which only a single one may be a leading zero. -/
structure Whole (text : List Char) (values : List Nat) : Prop where
  digits : Digits 10 text values
  nonempty : values ≠ []
  leading : values.head? = some 0 → values = [0]

/-- Digits behind a point, or nothing. -/
inductive Fraction : List Char → Prop where
  | none : Fraction []
  | some {text : List Char} {values : List Nat} (digits : Digits 10 text values)
      (nonempty : values ≠ []) : Fraction ('.' :: text)

/-- Digits behind a letter and perhaps a sign, or nothing. -/
inductive Exponent : List Char → Prop where
  | none : Exponent []
  | some {letter : Char} {sign text : List Char} {values : List Nat}
      (either : letter = 'e' ∨ letter = 'E') (signed : sign = [] ∨ sign = ['+'] ∨ sign = ['-'])
      (digits : Digits 10 text values) (nonempty : values ≠ []) :
      Exponent (letter :: (sign ++ text))

/-- A number without a sign. -/
inductive IsUnsigned : List Char → Prop where
  | parts {whole fraction exponent : List Char} {values : List Nat} (first : Whole whole values)
      (second : Fraction fraction) (third : Exponent exponent) :
      IsUnsigned (whole ++ (fraction ++ exponent))

/-- A number. -/
inductive IsNumber : List Char → Prop where
  | positive {text : List Char} (unsigned : IsUnsigned text) : IsNumber text
  | negative {text : List Char} (unsigned : IsUnsigned text) : IsNumber ('-' :: text)

/-- A text at whose front no number goes on. -/
def Ends (rest : List Char) : Prop :=
  ∀ c ∈ rest.head?, digitValue? 10 c = none ∧ c ≠ '.' ∧ c ≠ 'e' ∧ c ≠ 'E'

/-- A number goes on with a digit, a point or a letter. -/
theorem ends_cons {c : Char} {rest : List Char} :
    Ends (c :: rest) ↔ digitValue? 10 c = none ∧ c ≠ '.' ∧ c ≠ 'e' ∧ c ≠ 'E' := by
  simp [Ends]

/-- No number goes on with nothing. -/
theorem ends_nil : Ends [] := by
  simp [Ends]

/-- Where no number goes on, there is no digit. -/
theorem Ends.stops {rest : List Char} (ends : Ends rest) : Stops 10 rest :=
  fun c first => (ends c first).1

/-- A number does not go on with a blank, nor with what stands behind a value. -/
theorem ends_gap {gap : List Char} (blanks : Blanks gap) {rest : List Char} (ends : Ends rest) :
    Ends (gap ++ rest) := by
  -- Either the number ends right at the value behind it, or at a blank.
  cases gap with
  | nil => exact ends
  | cons c gap =>
    have blank := blanks c (List.mem_cons_self ..)
    simp only [isBlank, Bool.or_eq_true, decide_eq_true_eq] at blank
    rw [List.cons_append, ends_cons]
    -- There are four blanks, and none of them goes on with a number.
    obtain ((rfl | rfl) | rfl) | rfl := blank <;> decide

/-- Decimal digits are the ten characters in a row. -/
theorem digitValue?_eq_none_iff {c : Char} : digitValue? 10 c = none ↔ ¬ ('0' ≤ c ∧ c ≤ '9') := by
  constructor
  · -- A character between zero and nine is the digit of its distance from zero.
    rintro none ⟨low, high⟩
    simp only [Char.le_def, UInt32.le_iff_toNat_le] at low high
    have least : 48 ≤ c.toNat := low
    have most : c.toNat ≤ 57 := high
    have known := digitValue?_digit (by decide) (show c.toNat - 48 < 10 by omega)
    rw [digit, if_pos (by omega), show 48 + (c.toNat - 48) = c.toNat by omega, Char.ofNat_toNat,
      none] at known
    cases known
  -- A digit would be one of ten characters, all of which lie in the row.
  · intro outside
    cases found : digitValue? 10 c with
    | none => rfl
    | some value =>
      refine absurd ?_ outside
      have below := lt_of_digitValue? found
      rw [eq_digit found]
      interval_cases value <;> decide

/-- Passing over digits stops at the first character that is none. -/
theorem Skip.digits_append {text rest : List Char} {values : List Nat}
    (digits : Digits 10 text values) (nonempty : values ≠ []) (stops : Stops 10 rest) :
    Skip.digits (text ++ rest) = .ok rest := by
  -- The digits are split off at the first other character, and there is at least one of them.
  rw [Skip.digits, split_append digits stops]
  split
  · rename_i nothing
    exact absurd (Prod.mk.inj nothing).1 nonempty
  · rename_i same
    rw [(Prod.mk.inj same).2]

/-- The digits before a point begin with a zero only if they are that zero. -/
theorem Whole.zero_or {text : List Char} {values : List Nat} (whole : Whole text values) :
    text = ['0'] ∧ values = [0] ∨ ∃ c others, text = c :: others ∧ c ≠ '0' := by
  -- The digits have one spelling, which shows their first character.
  have spelled := whole.digits.eq_map
  obtain ⟨first, others, rfl⟩ := List.exists_cons_of_ne_nil whole.nonempty
  -- Decimal digits have one spelling, so a first digit that is not zero is not spelled like it.
  by_cases zero : first = 0
  · subst zero
    have alone := whole.leading rfl
    exact .inl ⟨by rw [spelled, alone]; rfl, alone⟩
  · refine .inr ⟨digit first, others.map digit, spelled, fun same => ?_⟩
    have known := digitValue?_digit (by decide) (whole.digits.lt first (List.mem_cons_self ..))
    rw [same] at known
    exact zero (Option.some.inj known).symm

/-- Passing over what follows the digits before the point. -/
def Skip.behindWhole (text : List Char) : Except Fault (List Char) :=
  match text with
  | '.' :: rest => (Skip.digits rest).bind Skip.afterDigits
  | _ => Skip.afterDigits text

/-- The digits before the point of a number are passed over. -/
theorem Skip.number_whole {whole rest : List Char} {values : List Nat} (first : Whole whole values)
    (stops : Stops 10 rest) : Skip.number (whole ++ rest) = Skip.behindWhole rest := by
  have passed := Skip.digits_append first.digits first.nonempty stops
  -- A zero is looked at together with the character behind it, which is no digit.
  obtain ⟨rfl, rfl⟩ | ⟨c, others, rfl, positive⟩ := first.zero_or
  · cases rest with
    | nil => rfl
    | cons c rest =>
      have other := digitValue?_eq_none_iff.mp (stops_cons.mp stops)
      simp only [List.cons_append, List.nil_append, Skip.number, if_neg other]
      rfl
  · rw [Skip.number]
    · rw [passed]
      rfl
    · rintro _ _ same
      exact positive (List.cons.inj same).1

/-- An exponent is passed over. -/
theorem Skip.afterDigits_append {exponent rest : List Char} (third : Exponent exponent)
    (ends : Ends rest) : Skip.afterDigits (exponent ++ rest) = .ok rest := by
  -- There is no exponent, or its letter and sign are passed over before its digits.
  cases third with
  | none =>
    cases rest with
    | nil => rfl
    | cons c rest =>
      -- What ends a number begins with neither letter of an exponent.
      obtain ⟨-, -, small, large⟩ := ends_cons.mp ends
      rw [List.nil_append, Skip.afterDigits]
      · rintro _ same
        exact small (List.cons.inj same).1
      · rintro _ same
        exact large (List.cons.inj same).1
  | @some letter sign text values either signed digits nonempty =>
    have passed := Skip.digits_append digits nonempty ends.stops
    have behind : Skip.exponent (sign ++ (text ++ rest)) = .ok rest := by
      obtain rfl | rfl | rfl := signed
      · rw [List.nil_append, Skip.exponent]
        · exact passed
        -- Digits do not begin with a sign.
        all_goals
          rintro _ same
          obtain ⟨first, others, rfl⟩ := List.exists_cons_of_ne_nil nonempty
          cases digits with
          | cons known _ =>
            rw [(List.cons.inj same).1] at known
            cases known
      · exact passed
      · exact passed
    obtain rfl | rfl := either
    · simpa [Skip.afterDigits] using behind
    · simpa [Skip.afterDigits] using behind

/-- No digit stands behind the digits before the point. -/
theorem stops_fraction {fraction exponent rest : List Char} (second : Fraction fraction)
    (third : Exponent exponent) (ends : Ends rest) :
    Stops 10 (fraction ++ (exponent ++ rest)) ∧ Stops 10 (exponent ++ rest) := by
  -- An exponent begins with a letter, and without one the end of the number is next.
  have last : Stops 10 (exponent ++ rest) := by
    cases third with
    | none => exact ends.stops
    | some either => obtain rfl | rfl := either <;> exact stops_cons.mpr rfl
  refine ⟨?_, last⟩
  -- A fraction begins with a point, which is no digit either.
  cases second with
  | none => exact last
  | some => exact stops_cons.mpr rfl

/-- Passing over a number stops right behind it. -/
theorem Skip.number_append {text rest : List Char} (unsigned : IsUnsigned text) (ends : Ends rest) :
    Skip.number (text ++ rest) = .ok rest := by
  -- The three parts of the number are passed over in turn.
  obtain @⟨whole, fraction, exponent, values, first, second, third⟩ := unsigned
  obtain ⟨stops, last⟩ := stops_fraction second third ends
  have passed := Skip.afterDigits_append third ends
  rw [List.append_assoc, List.append_assoc, Skip.number_whole first stops]
  cases second with
  | none =>
    rw [List.nil_append, Skip.behindWhole]
    · exact passed
    -- Neither an exponent nor what follows the number begins with a point.
    · rintro behind point
      cases third with
      | none =>
        rw [List.nil_append] at point
        subst point
        exact (ends_cons.mp ends).2.1 rfl
      | some either =>
        obtain rfl := (List.cons.inj point).1
        exact absurd either (by decide)
  | some digits nonempty =>
    simp only [List.cons_append, Skip.behindWhole, Skip.digits_append digits nonempty last]
    exact passed

/-! ## Values -/

open Skip (Enclosing)

/-- The character that opens a value. -/
def Skip.Enclosing.opening : Enclosing → Char
  | list => '['
  | object => '\x7b'

/-- What comes before the value of an item: blanks, and in an object a key with its colon. -/
inductive Lead : Enclosing → List Char → Prop where
  | list {gap : List Char} (blanks : Blanks gap) : Lead .list gap
  | object {before key between after : List Char} (first : Blanks before) (string : IsString key)
      (second : Blanks between) (third : Blanks after) :
      Lead .object (before ++ (key ++ (between ++ ':' :: after)))

/-- What is left of a list or an object up to its end, with commas between the items in it.

The first item is without a comma when none came before. -/
inductive Items {α : Type} (Item : α → List Char → Prop) (closing : Char) :
    (opened : Bool) → List α → List Char → Prop where
  | closed {opened : Bool} {gap : List Char} (blanks : Blanks gap) :
      Items Item closing opened [] (gap ++ [closing])
  | first {item : α} {items : List α} {piece text : List Char} (head : Item item piece)
      (tail : Items Item closing false items text) :
      Items Item closing true (item :: items) (piece ++ text)
  | next {item : α} {items : List α} {gap piece text : List Char} (blanks : Blanks gap)
      (head : Item item piece) (tail : Items Item closing false items text) :
      Items Item closing false (item :: items) (gap ++ ',' :: (piece ++ text))

/-- A value behind what comes before it. -/
def Led (enclosing : Enclosing) (value piece : List Char) : Prop :=
  ∃ lead, Lead enclosing lead ∧ piece = lead ++ value

/-- A well-formed value. Nothing is asked of how large its numbers are, how deep it is nested, or
whether its escapes stand for characters. -/
inductive IsValue : List Char → Prop where
  | word {text : List Char} (known : text ∈ ["null", "true", "false"].map String.toList) :
      IsValue text
  | number {text : List Char} (number : IsNumber text) : IsValue text
  | string {text : List Char} (string : IsString text) : IsValue text
  | enclosed (enclosing : Enclosing) {values : List (List Char)} {text : List Char}
      (all : ∀ value ∈ values, IsValue value)
      (items : Items (Led enclosing) enclosing.closing true values text) :
      IsValue (enclosing.opening :: text)

end CallGate.Json
