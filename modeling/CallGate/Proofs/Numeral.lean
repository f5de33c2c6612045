import Mathlib.Data.List.Forall2
import Mathlib.Data.Nat.Digits.Lemmas
import CallGate.Numeral

/-! Numbers are read back from their digits, and no other digits without a leading zero stand for
them. -/

namespace CallGate.Numeral

/-- A text that is digits throughout, with their values. -/
def Digits (radix : Nat) (text : List Char) (values : List Nat) : Prop :=
  List.Forall₂ (fun c value => digitValue? radix c = some value) text values

/-- A text that no digit stands at the front of. -/
def Stops (radix : Nat) (rest : List Char) : Prop :=
  ∀ c ∈ rest.head?, digitValue? radix c = none

/-- Nothing is left to be a digit. -/
theorem stops_nil (radix : Nat) : Stops radix [] := by
  -- There is no first character to be a digit.
  simp [Stops]

/-- One character that is no digit is enough. -/
theorem stops_cons {radix : Nat} {c : Char} {rest : List Char} :
    Stops radix (c :: rest) ↔ digitValue? radix c = none := by
  -- Only the first character matters.
  simp [Stops]

/-- Splitting takes all digits in a row, and leaves the rest as it is. -/
theorem split_append {radix : Nat} {text rest : List Char} {values : List Nat}
    (digits : Digits radix text values) (stops : Stops radix rest) :
    split radix (text ++ rest) = (values, rest) := by
  -- Induction on the digits, which are taken off one by one.
  induction digits with
  | nil =>
    cases rest with
    | nil => rfl
    | cons c rest => simp only [List.nil_append, split, stops_cons.mp stops]
  | cons digit _ ih => simp only [List.cons_append, split, digit, ih]

/-- Whatever is split, it is digits first and then none. -/
theorem exists_of_split (radix : Nat) (text : List Char) :
    ∃ front, text = front ++ (split radix text).2 ∧
      Digits radix front (split radix text).1 ∧ Stops radix (split radix text).2 := by
  -- Induction on the text: its first character is a digit, or nothing is split off.
  induction text with
  | nil => exact ⟨[], rfl, .nil, stops_nil radix⟩
  | cons c rest ih =>
    cases digit : digitValue? radix c with
    | none => exact ⟨[], by simp [split, digit], by simp [split, digit, Digits],
        by simp [split, digit, stops_cons]⟩
    | some value =>
      obtain ⟨front, whole, digits, stops⟩ := ih
      simp only [split, digit]
      exact ⟨c :: front, by rw [List.cons_append, ← whole], .cons digit digits, stops⟩

/-- A digit has a value below the radix. -/
theorem lt_of_digitValue? {radix value : Nat} {c : Char}
    (digit : digitValue? radix c = some value) : value < radix := by
  -- The lookup is filtered by the radix.
  simpa using (Option.filter_eq_some_iff.mp digit).2

/-- The character of a digit has the value it was made for. -/
theorem digitValue?_digit {radix value : Nat} (few : radix ≤ 16) (below : value < radix) :
    digitValue? radix (digit value) = some value := by
  have small : value < 16 := Nat.lt_of_lt_of_le below few
  -- Sixteen characters, each looked up in the ranges of digits.
  have known : digitValue? 16 (digit value) = some value := by
    rcases value with _ | _ | _ | _ | _ | _ | _ | _ | _ | _ | _ | _ | _ | _ | _ | _ | value
    all_goals first | rfl | omega
  -- The same lookup is filtered by a radix that the value is below as well.
  unfold digitValue? at known ⊢
  rw [Option.filter_eq_some_iff] at known ⊢
  exact ⟨known.1, by simpa using below⟩

/-- Decimal digits have one spelling each. -/
theorem eq_digit {value : Nat} {c : Char} (decimal : digitValue? 10 c = some value) :
    c = digit value := by
  -- The character stands in one of three ranges, and only the first of them has values below ten.
  unfold digitValue? at decimal
  obtain ⟨named, below⟩ := Option.filter_eq_some_iff.mp decimal
  have few : value < 10 := by simpa using below
  simp only [Char.le_def, UInt32.le_iff_toNat_le] at named
  -- Letters stand for ten and more.
  split at named
  · rename_i range
    have place : 48 + value = c.toNat := by
      have low : 48 ≤ c.toNat := range.1
      have same := Option.some.inj named
      omega
    rw [digit, if_pos few, place, Char.ofNat_toNat]
  · split at named
    · rename_i range
      have low : 97 ≤ c.toNat := range.1
      have same := Option.some.inj named
      omega
    · split at named
      · rename_i range
        have low : 65 ≤ c.toNat := range.1
        have same := Option.some.inj named
        omega
      · cases named

/-- Digits are below the radix. -/
theorem Digits.lt {radix : Nat} {text : List Char} {values : List Nat}
    (spelled : Digits radix text values) : ∀ value ∈ values, value < radix := by
  -- Every digit was looked up for this radix.
  induction spelled with
  | nil => simp
  | cons digit _ ih => exact List.forall_mem_cons.mpr ⟨lt_of_digitValue? digit, ih⟩

/-- Decimal digits are spelled in one way. -/
theorem Digits.eq_map {text : List Char} {values : List Nat} (spelled : Digits 10 text values) :
    text = values.map digit := by
  -- Induction on the digits, each of which has one spelling.
  induction spelled with
  | nil => rfl
  | cons decimal _ ih => rw [List.map_cons, ← eq_digit decimal, ← ih]

/-- The digits of a number, most significant first and at least one. -/
def digits (radix number : Nat) : List Nat :=
  if number = 0 then [0] else (Nat.digits radix number).reverse

/-- A number has at least one digit. -/
theorem digits_ne_nil (radix number : Nat) : digits radix number ≠ [] := by
  -- Zero is written by one digit, and any other number by those that it has.
  unfold digits
  split
  · simp
  · rename_i positive
    simpa [Nat.digits_ne_nil_iff_ne_zero] using positive

/-- Only zero itself begins with a zero. -/
theorem digits_of_zero_first {radix number : Nat} (first : (digits radix number).head? = some 0) :
    digits radix number = [0] := by
  -- The first digit of any other number is its highest, which is not zero.
  unfold digits at first ⊢
  split
  · rfl
  · rename_i positive
    rw [if_neg positive, List.head?_reverse,
      List.getLast?_eq_some_getLast (Nat.digits_ne_nil_iff_ne_zero.mpr positive)] at first
    exact absurd (Option.some.inj first) (Nat.getLast_digit_ne_zero radix positive)

section Radix

variable {radix : Nat} (several : 1 < radix)

include several

/-- A number is written by its digits. -/
theorem render_eq (number : Nat) : render radix number = (digits radix number).map digit := by
  -- Strong induction on the number, since the digits before the last are those of the quotient.
  induction number using Nat.strong_induction_on with
  | _ number ih =>
    rw [render]
    split
    -- One digit is enough.
    · rename_i last
      have below : number < radix := last.resolve_left (by omega)
      by_cases zero : number = 0
      · simp [digits, zero]
      · simp [digits, zero, Nat.digits_of_lt radix number zero below]
    -- The last digit is the remainder, behind the digits of the quotient.
    · rename_i more
      have large : radix ≤ number := by omega
      have smaller : number / radix < number := Nat.div_lt_self (by omega) several
      have positive : number / radix ≠ 0 := Nat.ne_of_gt (Nat.div_pos large (by omega))
      rw [ih _ smaller]
      simp [digits, positive, Nat.digits_def' several (show 0 < number by omega),
        show number ≠ 0 by omega]

/-- Every digit is below the radix. -/
theorem lt_of_mem_digits {number value : Nat} (member : value ∈ digits radix number) :
    value < radix := by
  -- Zero is below the radix, and so are the digits of any other number.
  unfold digits at member
  split at member
  · simp only [List.mem_singleton] at member
    omega
  · exact Nat.digits_lt_base several (List.mem_reverse.mp member)

/-- A number has no more digits than the bound it lies below. -/
theorem length_digits_le {number count : Nat} (positive : 0 < count)
    (below : number < radix ^ count) : (digits radix number).length ≤ count := by
  -- Zero takes one digit, for which there is room.
  unfold digits
  split
  · exact positive
  · rw [List.length_reverse, Nat.digits_length_le_iff several]
    exact below

end Radix

/-- The value of digits is the sum over their places. -/
theorem value_eq_ofDigits (radix : Nat) (values : List Nat) :
    value radix values = Nat.ofDigits radix values.reverse := by
  -- Reading from the front multiplies what has been read, as summing from the end does.
  rw [value, Nat.ofDigits_eq_foldr, List.foldr_reverse]
  simp only [Nat.cast_id, Nat.mul_comm, Nat.add_comm]

/-- Digits stand for the number they are of. -/
theorem value_digits (radix number : Nat) : value radix (digits radix number) = number := by
  -- The digits are turned around twice.
  rw [value_eq_ofDigits, digits]
  split
  · rename_i zero
    simp [zero]
  · rw [List.reverse_reverse, Nat.ofDigits_digits]

/-- Digits that do not begin with a zero, or are nothing else, are those of their number. -/
theorem digits_value {radix : Nat} (several : 1 < radix) {values : List Nat}
    (nonempty : values ≠ []) (below : ∀ value ∈ values, value < radix)
    (leading : values.head? = some 0 → values = [0]) :
    digits radix (value radix values) = values := by
  obtain ⟨first, others, rfl⟩ := List.exists_cons_of_ne_nil nonempty
  -- The first digit decides whether the number is zero.
  by_cases zero : first = 0
  · -- A leading zero is the only digit.
    subst zero
    rw [leading rfl]
    simp [value, digits]
  · rw [value_eq_ofDigits, digits]
    have same := Nat.digits_ofDigits radix several (first :: others).reverse
      (fun value member => below value (List.mem_reverse.mp member)) (by simpa using zero)
    split
    · rename_i nothing
      rw [nothing, Nat.digits_zero] at same
      simp at same
    · rw [same, List.reverse_reverse]

/-- The digits of a number are read back from its text. -/
theorem digits_render {radix : Nat} (several : 1 < radix) (few : radix ≤ 16) (number : Nat) :
    Digits radix (render radix number) (digits radix number) := by
  -- Each digit is read back from its own character.
  rw [render_eq several, Digits, List.forall₂_map_left_iff, List.forall₂_same]
  exact fun value member => digitValue?_digit few (lt_of_mem_digits several member)

/-- A decimal text without a leading zero is the text of its number. -/
theorem eq_render_of_digits {text : List Char} {values : List Nat} (spelled : Digits 10 text values)
    (nonempty : values ≠ []) (leading : values.head? = some 0 → values = [0]) :
    text = render 10 (value 10 values) := by
  -- The digits are those of the number, and each is spelled in the one way there is.
  rw [render_eq (by decide), digits_value (by decide) nonempty spelled.lt leading]
  exact spelled.eq_map

end CallGate.Numeral
