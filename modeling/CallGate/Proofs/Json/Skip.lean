import CallGate.Proofs.Json.Grammar

/-! Passing over a value stops right behind it, whatever the value is. -/

namespace CallGate.Json

open Numeral Skip

/-- The first character of a decimal text, one of ten. -/
theorem exists_digit {text : List Char} {values : List Nat} (digits : Digits 10 text values)
    (nonempty : values ≠ []) : ∃ value others, value < 10 ∧ text = digit value :: others := by
  -- There is a first digit, and digits are spelled in one way.
  obtain ⟨first, rest, rfl⟩ := List.exists_cons_of_ne_nil nonempty
  exact ⟨first, rest.map digit, digits.lt first (List.mem_cons_self ..), digits.eq_map⟩

/-- A number without a sign begins with a digit. -/
theorem IsUnsigned.exists_digit {text : List Char} (unsigned : IsUnsigned text) :
    ∃ value others, value < 10 ∧ text = digit value :: others := by
  -- Whatever else a number has, it begins with the digits before its point.
  obtain ⟨first, second, third⟩ := unsigned
  obtain ⟨value, others, below, rfl⟩ := Json.exists_digit first.digits first.nonempty
  exact ⟨value, _, below, rfl⟩

/-- The first character of a value tells what the value is. -/
theorem IsValue.begins {text : List Char} (well : IsValue text) :
    ∃ c others, text = c :: others ∧
      (c = '"' ∧ IsTail others ∨
        (∃ value < 10, c = digit value) ∧ IsUnsigned (c :: others) ∨
        c = 'n' ∧ others = ['u', 'l', 'l'] ∨ c ∈ ['t', 'f', '-', '[', '\x7b']) := by
  -- One case for each sort of value, and its first character follows from how it is written.
  cases well with
  | word known =>
    simp only [List.map_cons, List.map_nil, List.mem_cons, List.not_mem_nil, or_false] at known
    obtain rfl | rfl | rfl := known
    · exact ⟨_, _, rfl, .inr (.inr (.inl ⟨rfl, rfl⟩))⟩
    all_goals exact ⟨_, _, rfl, .inr (.inr (.inr (by decide)))⟩
  | number number =>
    cases number with
    | positive unsigned =>
      obtain ⟨value, others, below, rfl⟩ := unsigned.exists_digit
      exact ⟨_, _, rfl, .inr (.inl ⟨⟨value, below, rfl⟩, unsigned⟩)⟩
    | negative unsigned => exact ⟨_, _, rfl, .inr (.inr (.inr (by decide)))⟩
  | string string =>
    obtain ⟨tail⟩ := string
    exact ⟨_, _, rfl, .inl ⟨rfl, tail⟩⟩
  -- Lists and objects begin with a bracket or a brace.
  | enclosed enclosing =>
    refine ⟨_, _, rfl, .inr (.inr (.inr ?_))⟩
    cases enclosing <;> decide

/-- A value begins with a character that is no blank and closes nothing. -/
theorem IsValue.exists_cons {text : List Char} (well : IsValue text) :
    ∃ c others, text = c :: others ∧ isBlank c = false ∧ ∀ enclosing : Enclosing,
      c ≠ enclosing.closing := by
  -- The four sorts are gone through, and none of their first characters is a blank or a closing
  -- one.
  obtain ⟨c, others, rfl, ⟨rfl, -⟩ | ⟨⟨value, below, rfl⟩, -⟩ | ⟨rfl, -⟩ | sort⟩ := well.begins
  · exact ⟨_, _, rfl, by decide, by rintro (_ | _) <;> decide⟩
  · refine ⟨_, _, rfl, ?_⟩
    interval_cases value <;> exact ⟨by decide, by rintro (_ | _) <;> decide⟩
  · exact ⟨_, _, rfl, by decide, by rintro (_ | _) <;> decide⟩
  · refine ⟨_, _, rfl, ?_⟩
    simp only [List.mem_cons, List.not_mem_nil, or_false] at sort
    obtain rfl | rfl | rfl | rfl | rfl := sort
    all_goals exact ⟨by decide, by rintro (_ | _) <;> decide⟩

/-- What closes a list or an object ends a number too, and so does a comma. -/
theorem Items.ends {α : Type} {Item : α → List Char → Prop} {closing : Char} {items : List α}
    {text : List Char} (bracket : closing = ']' ∨ closing = '\x7d')
    (left : Items Item closing false items text) (rest : List Char) : Ends (text ++ rest) := by
  -- What is left is the closing character or a comma, with blanks before it.
  cases left with
  | closed blanks =>
    rw [List.append_assoc]
    refine ends_gap blanks (ends_cons.mpr ?_)
    obtain rfl | rfl := bracket <;> decide
  | next blanks =>
    rw [List.append_assoc]
    exact ends_gap blanks (ends_cons.mpr (by decide))

namespace Skip

/-- Passing over what is left when a value has been passed over. -/
def resume (fuel : Nat) (around : List Enclosing) (rest : List Char) :
    Except Fault (List Char) :=
  if around.isEmpty then .ok rest else skip fuel .member around rest

/-- Between two members, the innermost value goes on. -/
theorem resume_cons (fuel : Nat) (enclosing : Enclosing) (around : List Enclosing)
    (rest : List Char) :
    resume fuel (enclosing :: around) rest = skip fuel .member (enclosing :: around) rest := rfl

/-- A text is passed over as one value, in fewer than two turns for each character. -/
def Passes (text : List Char) : Prop :=
  ∃ turns < 2 * text.length, ∀ gap rest, Blanks gap → Ends rest → ∀ fuel around,
    skip (fuel + turns) .value around (gap ++ (text ++ rest)) = resume fuel around rest

/-- Words, numbers and strings are passed over in one turn. -/
theorem passes_scalar {c : Char} {others : List Char} (visible : isBlank c = false)
    (simple : ∀ enclosing : Enclosing, c ≠ enclosing.opening)
    (passed : ∀ rest, Ends rest → scalar (c :: (others ++ rest)) = .ok rest) :
    Passes (c :: others) := by
  -- One turn is enough, because a scalar is passed over as a whole.
  refine ⟨1, by simp only [List.length_cons]; omega, fun gap rest blanks ends fuel around => ?_⟩
  rw [List.cons_append, skip, skipBlanks_append_cons blanks visible]
  split
  · rename_i same
    exact absurd (List.cons.inj same).1 (simple .list)
  · rename_i same
    exact absurd (List.cons.inj same).1 (simple .object)
  · rw [passed rest ends]
    rfl

/-- A word is passed over. -/
theorem passes_word {text : List Char}
    (known : text ∈ ["null", "true", "false"].map String.toList) : Passes text := by
  -- There are three words, none of which begins like another sort of value.
  simp only [List.map_cons, List.map_nil, List.mem_cons, List.not_mem_nil, or_false] at known
  obtain rfl | rfl | rfl := known
  all_goals
    exact passes_scalar (by decide) (by rintro (_ | _) <;> decide) fun rest _ =>
      word_append _ rest

/-- A number is passed over. -/
theorem passes_number {text : List Char} (number : IsNumber text) : Passes text := by
  cases number with
  | positive unsigned =>
    obtain ⟨value, others, below, rfl⟩ := unsigned.exists_digit
    have passed := fun rest (ends : Ends rest) => Skip.number_append unsigned ends
    -- None of the ten digits is the first character of another sort of value.
    interval_cases value <;>
      exact passes_scalar (by decide) (by rintro (_ | _) <;> decide) passed
  | negative unsigned =>
    exact passes_scalar (by decide) (by rintro (_ | _) <;> decide) fun rest ends =>
      Skip.number_append unsigned ends

/-- A string is passed over. -/
theorem passes_string {text : List Char} (string : IsString text) : Passes text := by
  -- A string is told by its quote and passed over up to the closing one.
  obtain ⟨tail⟩ := string
  refine passes_scalar (by decide) (by rintro (_ | _) <;> decide) fun rest _ => ?_
  exact Skip.string_append tail (by simp) rest

/-- What comes before a value is passed over up to some blanks. -/
theorem key_append {enclosing : Enclosing} {lead : List Char} (leads : Lead enclosing lead)
    (rest : List Char) : ∃ gap, Blanks gap ∧ key enclosing (lead ++ rest) = .ok (gap ++ rest) := by
  -- In a list only blanks come before a value, and in an object a name and a colon do.
  cases leads with
  | list blanks => exact ⟨_, blanks, rfl⟩
  | @object before quoted between after first string second third =>
    obtain @⟨tail, ended⟩ := string
    refine ⟨after, third, ?_⟩
    -- The quote, the string behind it and the colon are found in turn.
    let behind := between ++ ':' :: (after ++ rest)
    have quote : mark '"' (before ++ '"' :: (tail ++ behind)) = .ok (tail ++ behind) :=
      mark_append first (by decide) _
    have inside : Skip.string (tail ++ behind).length (tail ++ behind) = .ok behind :=
      Skip.string_append ended (by simp) _
    have colon : mark ':' behind = .ok (after ++ rest) := mark_append second (by decide) _
    simp only [key, List.append_assoc, List.cons_append]
    rw [quote]
    exact (congrArg (fun read => read.bind (mark ':')) inside).trans colon

/-- Blanks before a value, or before its key, do not matter. -/
theorem skipBlanks_lead {enclosing : Enclosing} {lead value : List Char}
    (leads : Lead enclosing lead) (well : IsValue value) (rest : List Char) :
    ∃ c behind gap, skipBlanks (lead ++ (value ++ rest)) = c :: behind ∧ c ≠ enclosing.closing ∧
      Blanks gap ∧ key enclosing (c :: behind) = .ok (gap ++ (value ++ rest)) := by
  -- The value is next in a list, and in an object it is the quote of its name.
  cases leads with
  | list blanks =>
    obtain ⟨c, others, rfl, visible, inner⟩ := well.exists_cons
    exact ⟨c, others ++ rest, [], skipBlanks_append_cons blanks visible _, inner _, blanks_nil, rfl⟩
  | @object before quoted between after first string second third =>
    obtain ⟨gap, blanks, found⟩ :=
      key_append (.object blanks_nil string second third) (value ++ rest)
    obtain @⟨tail, ended⟩ := string
    refine ⟨'"', _, gap, ?_, by decide, blanks, found⟩
    rw [List.append_assoc]
    exact skipBlanks_append_cons first (by decide) _

/-- The opening character takes one turn. -/
theorem skip_opening {enclosing : Enclosing} {text rest : List Char}
    (found : skipBlanks text = enclosing.opening :: rest) (fuel : Nat) (around : List Enclosing) :
    skip (fuel + 1) .value around text = skip fuel .opened (enclosing :: around) rest := by
  -- Either opening character leads to the same state of passing over.
  cases enclosing <;> simp only [Enclosing.opening] at found <;> simp only [skip, found]

/-- Where passing over stands within a list or an object. -/
def within (opened : Bool) : Place := if opened then .opened else .member

/-- The closing character ends a list or an object, wherever passing over stands in it. -/
theorem skip_closing {enclosing : Enclosing} {text rest : List Char}
    (found : skipBlanks text = enclosing.closing :: rest) (opened : Bool) (fuel : Nat)
    (around : List Enclosing) :
    skip (fuel + 1) (within opened) (enclosing :: around) text = resume fuel around rest := by
  -- The closing character is seen first, whether an item has been read or not.
  cases opened <;> simp only [within, skip, found, ↓reduceIte, Bool.false_eq_true, resume]

/-- A first item is taken from where it begins. -/
theorem skip_first {enclosing : Enclosing} {c : Char} {text behind start : List Char}
    (found : skipBlanks text = c :: behind) (inner : c ≠ enclosing.closing)
    (keyed : key enclosing (c :: behind) = .ok start) (fuel : Nat) (around : List Enclosing) :
    skip (fuel + 1) .opened (enclosing :: around) text =
      skip fuel .value (enclosing :: around) start := by
  -- No closing character is there, so a first item begins.
  simp only [skip, found, if_neg inner, ↓reduceIte, Except.bind, keyed]

/-- A further item is taken from behind its comma. -/
theorem skip_next {enclosing : Enclosing} {text behind start : List Char}
    (found : skipBlanks text = ',' :: behind) (keyed : key enclosing behind = .ok start)
    (fuel : Nat) (around : List Enclosing) :
    skip (fuel + 1) .member (enclosing :: around) text =
      skip fuel .value (enclosing :: around) start := by
  -- A comma closes neither a list nor an object.
  have inner : ',' ≠ enclosing.closing := by cases enclosing <;> decide
  simp only [skip, found, if_neg inner, ↓reduceIte, reduceCtorEq, Except.bind, keyed]

/-- Passing over what is left of a list or an object ends right behind it, if its values are passed
over themselves. -/
theorem skip_items {enclosing : Enclosing} {opened : Bool} {values : List (List Char)}
    {text : List Char} (all : ∀ value ∈ values, IsValue value ∧ Passes value)
    (items : Items (Led enclosing) enclosing.closing opened values text) :
    ∃ turns ≤ 2 * text.length, ∀ rest fuel around,
      skip (fuel + turns) (within opened) (enclosing :: around) (text ++ rest) =
        resume fuel around rest := by
  -- Induction on the items, along with the turns they take together.
  have bracket : enclosing.closing = ']' ∨ enclosing.closing = '\x7d' := by
    cases enclosing <;> decide
  induction items with
  | @closed opened gap blanks =>
    -- The closing character takes one turn, behind its blanks.
    refine ⟨1, by simp; omega, fun rest fuel around => skip_closing ?_ opened fuel around⟩
    rw [List.append_assoc]
    exact skipBlanks_append_cons blanks (by cases enclosing <;> decide) rest
  | @first value values piece text head tail ih =>
    obtain ⟨⟨well, turns, few, passed⟩, others⟩ := List.forall_mem_cons.mp all
    obtain ⟨more, bound, left⟩ := ih others
    obtain ⟨lead, leads, rfl⟩ := head
    -- One turn finds the value, which is passed over before the others.
    refine ⟨more + turns + 1, by simp only [List.length_append]; omega, fun rest fuel around => ?_⟩
    obtain ⟨c, behind, gap, found, inner, blanks, keyed⟩ :=
      skipBlanks_lead leads well (text ++ rest)
    rw [List.append_assoc, List.append_assoc, ← Nat.add_assoc, ← Nat.add_assoc]
    refine (skip_first found inner keyed _ around).trans ?_
    rw [passed gap (text ++ rest) blanks (tail.ends bracket rest), resume_cons]
    exact left rest fuel around
  | @next value values before piece text blanks head tail ih =>
    obtain ⟨⟨well, turns, few, passed⟩, others⟩ := List.forall_mem_cons.mp all
    obtain ⟨more, bound, left⟩ := ih others
    obtain ⟨lead, leads, rfl⟩ := head
    refine ⟨more + turns + 1, by simp only [List.length_append, List.length_cons]; omega,
      fun rest fuel around => ?_⟩
    -- The item stands behind its comma, and the key of an object behind that.
    obtain ⟨gap, blank, keyed⟩ := key_append leads (value ++ (text ++ rest))
    have found : skipBlanks (before ++ ',' :: (lead ++ value ++ text) ++ rest) =
        ',' :: (lead ++ (value ++ (text ++ rest))) := by
      simp only [List.append_assoc, List.cons_append]
      exact skipBlanks_append_cons blanks (by decide) _
    rw [← Nat.add_assoc, ← Nat.add_assoc]
    refine (skip_next found keyed _ around).trans ?_
    rw [passed gap (text ++ rest) blank (tail.ends bracket rest), resume_cons]
    exact left rest fuel around

/-- Every value is passed over. -/
theorem passes_of_isValue {text : List Char} (well : IsValue text) : Passes text := by
  -- Induction on the value: what a list or an object encloses are values that are passed over.
  induction well with
  | word known => exact passes_word known
  | number number => exact passes_number number
  | string string => exact passes_string string
  | @enclosed enclosing values text all items ih =>
    obtain ⟨turns, few, left⟩ :=
      skip_items (fun value member => ⟨all value member, ih value member⟩) items
    refine ⟨turns + 1, by simp only [List.length_cons]; omega, ?_⟩
    intro gap rest blanks _ fuel around
    have found : skipBlanks (gap ++ enclosing.opening :: (text ++ rest)) =
        enclosing.opening :: (text ++ rest) :=
      skipBlanks_append_cons blanks (by cases enclosing <;> decide) _
    -- One turn passes over the opening character, and the others over what is left.
    rw [← left rest fuel around, List.cons_append, ← Nat.add_assoc]
    exact skip_opening found _ around

/-- Passing over a value stops right behind it. -/
theorem value_append {text gap rest : List Char} (well : IsValue text) (blanks : Blanks gap)
    (ends : Ends rest) : Skip.value (gap ++ (text ++ rest)) = .ok rest := by
  -- Every value takes at most two turns for each of its characters, and so many are granted.
  obtain ⟨turns, few, passed⟩ := passes_of_isValue well
  have enough : turns ≤ 2 * (gap ++ (text ++ rest)).length + 1 := by
    simp only [List.length_append]
    omega
  obtain ⟨fuel, whole⟩ := Nat.exists_eq_add_of_le' enough
  rw [Skip.value, whole, passed gap rest blanks ends]
  rfl

end Skip

end CallGate.Json
