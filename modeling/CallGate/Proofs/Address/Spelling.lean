import CallGate.Address
import CallGate.Proofs.Numeral

/-! How addresses may be spelled, and that exactly these texts are read as addresses. -/

namespace CallGate

namespace Address

open Numeral

/-- Digits a number may be written with: one at least, not too many, and perhaps no leading zero. -/
structure Fits (radix most bound : Nat) (leadingZeros : Bool) (values : List Nat) : Prop where
  nonempty : values ≠ []
  few : values.length ≤ most
  leading : leadingZeros = false → values.head? = some 0 → values = [0]
  below : value radix values < bound

/-- A number is read from the digits at the front of a text, all of them. -/
theorem number_eq_some_iff {radix most bound : Nat} {leadingZeros : Bool} {text rest : List Char}
    {found : Nat} :
    number radix most bound leadingZeros text = some (found, rest) ↔
      ∃ front values, text = front ++ rest ∧ Digits radix front values ∧ Stops radix rest ∧
        Fits radix most bound leadingZeros values ∧ value radix values = found := by
  -- All digits at the front are split off and judged together.
  constructor
  · intro read
    obtain ⟨front, whole, digits, stops⟩ := exists_of_split radix text
    unfold number at read
    generalize split radix text = parts at whole digits stops read
    obtain ⟨values, behind⟩ := parts
    simp only at whole digits stops read
    -- None of the three reasons to refuse the digits applies.
    split at read
    · cases read
    · rename_i size
      split at read
      · cases read
      · rename_i zeros
        split at read
        · rename_i below
          obtain ⟨rfl, rfl⟩ := Prod.mk.inj (Option.some.inj read)
          rw [not_or] at size
          refine ⟨front, values, whole, digits, stops,
            ⟨by simpa using size.1, by omega, ?_, below⟩, rfl⟩
          intro strict first
          obtain ⟨others, rfl⟩ := List.head?_eq_some_iff.mp first
          cases others with
          | nil => rfl
          | cons second others => exact absurd ⟨by simpa using strict, rfl, by simp⟩ zeros
        · cases read
  -- Digits that fit are refused for none of the three reasons.
  · rintro ⟨front, values, rfl, digits, stops, ⟨nonempty, few, leading, below⟩, rfl⟩
    have size : ¬ (values.isEmpty ∨ most < values.length) := by
      rw [not_or]
      exact ⟨by simpa using nonempty, by omega⟩
    have zeros : ¬ (¬ leadingZeros ∧ values.head? = some 0 ∧ 1 < values.length) := by
      rintro ⟨strict, first, more⟩
      rw [leading (by simpa using strict) first] at more
      exact absurd more (by decide)
    simp only [number, split_append digits stops, if_neg size, if_neg zeros, if_pos below]

/-- A character is taken off the front if it is the one expected. -/
theorem mark_eq_some_iff {expected : Char} {text rest : List Char} :
    mark expected text = some rest ↔ text = expected :: rest := by
  -- The text begins with the character, or there is nothing to take.
  cases text with
  | nil => simp [mark]
  | cons c text =>
    simp only [mark, Option.ite_none_right_eq_some, Option.some.injEq, List.cons.injEq]

/-- A decimal part is read as it would be written. -/
theorem octet_eq_some_iff {text rest : List Char} {part : UInt8} :
    octet text = some (part, rest) ↔
      text = render 10 part.toNat ++ rest ∧ Stops 10 rest := by
  -- A decimal part is a number of at most three digits without a leading zero, so it has one
  -- spelling.
  simp only [octet, Option.map_eq_some_iff, Prod.exists, number_eq_some_iff, Prod.mk.injEq]
  constructor
  · rintro ⟨found, _, ⟨front, values, rfl, digits, stops, fits, rfl⟩, rfl, rfl⟩
    have small : value 10 values < 256 := fits.below
    have same : (UInt8.ofNat (value 10 values)).toNat = value 10 values := by
      rw [UInt8.toNat_ofNat']
      omega
    rw [same, ← eq_render_of_digits digits fits.nonempty (fits.leading rfl)]
    exact ⟨rfl, stops⟩
  -- The digits of a byte fit: they are three at most, and lead with a zero only alone.
  · rintro ⟨rfl, stops⟩
    have small : part.toNat < 256 := part.toNat_lt
    refine ⟨part.toNat, rest, ⟨_, _, rfl, digits_render (by decide) (by decide) _, stops, ?_,
      value_digits 10 _⟩, UInt8.ofNat_toNat, rfl⟩
    exact ⟨digits_ne_nil 10 _, length_digits_le (by decide) (by decide) (by omega),
      fun _ => digits_of_zero_first, by rw [value_digits]; exact small⟩

/-- Four decimal parts are read as they would be written. -/
theorem ipv4_eq_some_iff {text rest : List Char} {address : Ipv4} :
    ipv4 text = some (address, rest) ↔ text = address.render ++ rest ∧ Stops 10 rest := by
  -- The four parts are read one after the other, each behind the dot of the one before.
  simp only [ipv4, Option.bind_eq_bind, Option.bind_eq_some_iff, Prod.exists, octet_eq_some_iff,
    mark_eq_some_iff, Ipv4.render]
  constructor
  · rintro ⟨first, _, ⟨rfl, _⟩, _, rfl, second, _, ⟨rfl, _⟩, _, rfl, third, _, ⟨rfl, _⟩, _, rfl,
      fourth, _, ⟨rfl, stops⟩, made⟩
    obtain ⟨rfl, rfl⟩ := Prod.mk.inj (Option.some.inj made)
    exact ⟨by simp only [List.append_assoc, List.cons_append], stops⟩
  · rintro ⟨rfl, stops⟩
    -- A dot is no digit, so each part ends where it should.
    have dot (behind : List Char) : Stops 10 ('.' :: behind) := stops_cons.mpr (by decide)
    simp only [List.append_assoc, List.cons_append]
    exact ⟨_, _, ⟨rfl, dot _⟩, _, rfl, _, _, ⟨rfl, dot _⟩, _, rfl, _, _, ⟨rfl, dot _⟩, _, rfl,
      _, _, ⟨rfl, stops⟩, rfl⟩

/-- A group is spelled with one to four hexadecimal digits, in either case and with any zeros. -/
def SpelledGroup (group : UInt16) (text : List Char) : Prop :=
  ∃ values, Digits 16 text values ∧ values ≠ [] ∧ values.length ≤ 4 ∧
    value 16 values = group.toNat

/-- A group is read from its digits. -/
theorem group_eq_some_iff {text rest : List Char} {found : UInt16} :
    group text = some (found, rest) ↔
      ∃ front, text = front ++ rest ∧ SpelledGroup found front ∧ Stops 16 rest := by
  -- A group is a number of at most four digits, and leading zeros are as good as others.
  simp only [group, Option.map_eq_some_iff, Prod.exists, number_eq_some_iff, Prod.mk.injEq]
  constructor
  · rintro ⟨number, _, ⟨front, values, rfl, digits, stops, fits, rfl⟩, rfl, rfl⟩
    have same : (UInt16.ofNat (value 16 values)).toNat = value 16 values := by
      have small : value 16 values < 65536 := fits.below
      rw [UInt16.toNat_ofNat']
      omega
    exact ⟨front, rfl, ⟨values, digits, fits.nonempty, fits.few, same.symm⟩, stops⟩
  · rintro ⟨front, rfl, ⟨values, digits, nonempty, few, same⟩, stops⟩
    refine ⟨found.toNat, rest, ⟨front, values, rfl, digits, stops, ?_, same⟩, UInt16.ofNat_toNat,
      rfl⟩
    exact ⟨nonempty, few, nofun, by rw [same]; exact found.toNat_lt⟩

/-- Groups with colons between them. Behind the last colon, or alone, four decimal parts may stand
for two groups, which is told by the mark. -/
inductive SpelledRow : (decimal : Bool) → List UInt16 → List Char → Prop
  | nil : SpelledRow false [] []
  | last {group : UInt16} {text : List Char} (spelled : SpelledGroup group text) :
    SpelledRow false [group] text
  | decimal (address : Ipv4) : SpelledRow true (Ipv4.pair address) address.render
  | cons {decimal : Bool} {group : UInt16} {groups : List UInt16} {text rest : List Char}
    (spelled : SpelledGroup group text) (more : groups ≠ [])
    (row : SpelledRow decimal groups rest) :
    SpelledRow decimal (group :: groups) (text ++ ':' :: rest)

/-- How an address may be spelled: four decimal parts, eight groups, or fewer groups around a double
colon, which stands for at least one group of zeros. -/
inductive Spelled : IpAddress → List Char → Prop
  | v4 (address : Ipv4) : Spelled (.v4 address) address.render
  | full {address : Ipv6} {decimal : Bool} {text : List Char}
    (row : SpelledRow decimal address.groups text) : Spelled (.v6 address) text
  | compressed {address : Ipv6} {decimal : Bool} {head tail : List UInt16}
    {before behind : List Char} (front : SpelledRow false head before)
    (back : SpelledRow decimal tail behind) (room : head.length + tail.length < 8)
    (filled : address.groups =
      head ++ List.replicate (8 - head.length - tail.length) 0 ++ tail) :
    Spelled (.v6 address) (before ++ ':' :: ':' :: behind)

/-- A text at which a row of groups comes to its end. A second colon keeps it from going on. -/
structure Ends (rest : List Char) : Prop where
  digit : Stops 16 rest
  dot : rest.head? ≠ some '.'
  colon (behind : List Char) (more : rest = ':' :: behind) : Stops 16 behind

/-- A digit of a smaller radix is one of a larger radix, too. -/
theorem digitValue?_of_le {small large value : Nat} {c : Char} (le : small ≤ large)
    (digit : digitValue? small c = some value) : digitValue? large c = some value := by
  -- The value is looked up in the same way, and only its bound is another.
  have below := lt_of_digitValue? digit
  unfold digitValue? at digit ⊢
  rw [Option.filter_eq_some_iff] at digit ⊢
  exact ⟨digit.1, by simpa using Nat.lt_of_lt_of_le below le⟩

/-- What no hexadecimal digit begins, no decimal digit begins. -/
theorem decimal_of_stops {rest : List Char} (stops : Stops 16 rest) : Stops 10 rest := by
  -- A decimal digit would be a hexadecimal one as well.
  intro c first
  cases digit : digitValue? 10 c with
  | none => rfl
  | some value =>
    have wider := digitValue?_of_le (by decide : 10 ≤ 16) digit
    rw [stops c first] at wider
    cases wider

/-- Every character of digits is one. -/
theorem exists_value_of_mem {radix : Nat} {text : List Char} {values : List Nat}
    (digits : Digits radix text values) {c : Char} (member : c ∈ text) :
    ∃ value, digitValue? radix c = some value := by
  -- Induction on the digits: the character is the first one, or among the others.
  induction digits with
  | nil => simp at member
  | @cons first value _ _ digit _ ih =>
    rcases List.mem_cons.mp member with rfl | later
    · exact ⟨value, digit⟩
    · exact ih later

/-- Without a dot behind its digits, nothing is an address of four decimal parts. -/
theorem ipv4_eq_none {text rest : List Char} {values : List Nat} (digits : Digits 16 text values)
    (stops : Stops 16 rest) (dot : rest.head? ≠ some '.') : ipv4 (text ++ rest) = none := by
  -- An address that was read would have its first dot somewhere in the text.
  cases read : ipv4 (text ++ rest) with
  | none => rfl
  | some found =>
    obtain ⟨address, behind⟩ := found
    obtain ⟨same, _⟩ := ipv4_eq_some_iff.mp read
    simp only [Ipv4.render, List.append_assoc, List.cons_append] at same
    -- The first dot of the address is in the digits, or at the front of the rest, or further on.
    rcases List.append_eq_append_iff.mp same with ⟨between, front, back⟩ | ⟨between, front, back⟩
    · cases between with
      | nil => exact absurd (by rw [back]; rfl) dot
      | cons c between =>
        -- The first decimal part would go on into the rest.
        have member : c ∈ render 10 address.first.toNat := by simp [front]
        obtain ⟨value, digit⟩ :=
          exists_value_of_mem (digits_render (by decide) (by decide) _) member
        have wider := digitValue?_of_le (by decide : 10 ≤ 16) digit
        rw [stops c (by rw [back]; rfl)] at wider
        cases wider
    -- The digits end behind the first part, and then the dot is one of them.
    · cases between with
      | nil => exact absurd (by rw [List.nil_append] at back; rw [← back]; rfl) dot
      | cons c between =>
        obtain ⟨rfl, _⟩ := List.cons.inj back
        have member : '.' ∈ text := by simp [front]
        obtain ⟨value, digit⟩ := exists_value_of_mem digits member
        have none : digitValue? 16 '.' = none := by decide
        cases digit.symm.trans none

/-- Four decimal parts begin with a digit. -/
theorem not_stops_render (address : Ipv4) (rest : List Char) :
    ¬ Stops 16 (address.render ++ rest) := by
  -- The first part is a digit at least, and decimal digits are hexadecimal ones.
  intro stops
  have spelled := digits_render (by decide : 1 < 10) (by decide) address.first.toNat
  have nonempty := digits_ne_nil 10 address.first.toNat
  unfold Ipv4.render at stops
  generalize render 10 address.first.toNat = text at spelled stops
  generalize digits 10 address.first.toNat = values at spelled nonempty
  cases spelled with
  | nil => exact nonempty rfl
  | cons digit _ => cases (decimal_of_stops stops _ rfl).symm.trans digit

/-- Where no digit stands, there is no group. -/
theorem group_eq_none {rest : List Char} (stops : Stops 16 rest) : group rest = none := by
  -- A group that was read would begin with a digit.
  cases read : group rest with
  | none => rfl
  | some found =>
    obtain ⟨front, rfl, ⟨values, digits, nonempty, _⟩, _⟩ := group_eq_some_iff.mp read
    cases digits with
    | nil => exact absurd rfl nonempty
    | @cons c value _ _ digit _ => cases (stops c rfl).symm.trans digit

/-- Where no digit stands behind the colon, no group is read. -/
theorem groups_of_stops {limit : Nat} {first : Bool} {text inner : List Char}
    (colon : behindColon first text = some inner) (stops : Stops 16 inner) :
    groups limit first text = ([], false, text) := by
  -- Neither an address of four parts nor a group begins here, for any room that is left.
  cases limit with
  | zero => rfl
  | succ limit =>
    have decimal : ipv4 inner = none := by
      cases read : ipv4 inner with
      | none => rfl
      | some found =>
        -- The first decimal part would begin with a digit.
        obtain ⟨rfl, _⟩ := ipv4_eq_some_iff.mp read
        exact absurd stops (not_stops_render _ _)
    simp only [groups, colon, decimal, group_eq_none stops, ite_self]

/-- A row that has come to its end does not go on. -/
theorem groups_of_ends {rest : List Char} (ends : Ends rest) (limit : Nat) :
    groups limit false rest = ([], false, rest) := by
  -- There is no colon, or there is one with no digit behind it.
  cases colon : behindColon false rest with
  | none => cases limit <;> simp only [groups, colon]
  | some inner => exact groups_of_stops colon (ends.colon inner (mark_eq_some_iff.mp colon))

/-- A group is read off the front, and the row goes on behind it. -/
theorem groups_cons {limit : Nat} {first : Bool} {text inner rest : List Char} {found : UInt16}
    (spelled : SpelledGroup found text) (colon : behindColon first inner = some (text ++ rest))
    (stops : Stops 16 rest) (dot : rest.head? ≠ some '.') :
    groups (limit + 1) first inner =
      (found :: (groups limit false rest).1, (groups limit false rest).2.1,
        (groups limit false rest).2.2) := by
  -- The digits of the group are no decimal part, so it is read as a group.
  obtain ⟨values, digits, _⟩ := id spelled
  have one : group (text ++ rest) = some (found, rest) :=
    group_eq_some_iff.mpr ⟨text, rfl, spelled, stops⟩
  simp only [groups, colon, ipv4_eq_none digits stops dot, one, ite_self]

/-- A row is read as a whole where there is room for its groups. -/
theorem groups_of_row {decimal : Bool} {row : List UInt16} {text : List Char}
    (spelled : SpelledRow decimal row text) {limit : Nat} (room : row.length ≤ limit)
    {first : Bool} {inner rest : List Char} (begun : row = [] → first = true)
    (colon : behindColon first inner = some (text ++ rest)) (ends : Ends rest) :
    groups limit first inner = (row, decimal, rest) := by
  -- Induction on the spelling of the row, with one place less for each group.
  induction spelled generalizing limit first inner with
  | nil =>
    -- Without a group there is no colon either.
    rw [begun rfl] at colon ⊢
    obtain rfl := Option.some.inj colon
    exact groups_of_stops rfl ends.digit
  -- A last group ends the row, as nothing behind it is one.
  | last spelled =>
    obtain ⟨limit, rfl⟩ := Nat.exists_eq_add_of_le' room
    rw [List.length_singleton, groups_cons spelled colon ends.digit ends.dot, groups_of_ends ends]
  -- Four decimal parts take two places and end the row.
  | decimal address =>
    obtain ⟨limit, rfl⟩ := Nat.exists_eq_add_of_le' room
    have parts : ipv4 (address.render ++ rest) = some (address, rest) :=
      ipv4_eq_some_iff.mpr ⟨rfl, decimal_of_stops ends.digit⟩
    have enough : ¬ limit + 1 = 0 := Nat.succ_ne_zero limit
    simp only [Ipv4.pair, List.length_cons, List.length_nil, groups, colon, parts, enough, if_false]
  -- A group with another behind it is read off, and the colon leads to the next.
  | @cons _ group row text behind spelled more _ ih =>
    obtain ⟨limit, rfl⟩ : ∃ fewer, limit = fewer + 1 := ⟨limit - 1, by simp at room; omega⟩
    have stops : Stops 16 (':' :: behind ++ rest) := stops_cons.mpr (by decide)
    have later := ih (Nat.le_of_succ_le_succ room) (fun none => absurd none more)
      (rfl : behindColon false (':' :: (behind ++ rest)) = some (behind ++ rest))
    rw [List.append_assoc] at colon
    rw [groups_cons spelled colon stops (by simp)]
    simp only [List.cons_append, later]

/-- Whatever is read as a row is spelled as one, and leaves the rest as it is. -/
theorem row_of_groups (limit : Nat) (first : Bool) (inner : List Char) :
    (groups limit first inner).1.length ≤ limit ∧
      (groups limit first inner = ([], false, inner) ∨
        ∃ row decimal text rest, groups limit first inner = (row, decimal, rest) ∧ row ≠ [] ∧
          behindColon first inner = some (text ++ rest) ∧ SpelledRow decimal row text) := by
  -- Induction on the room: each group that is read takes one place and leaves a shorter text.
  induction limit generalizing first inner with
  | zero => exact ⟨Nat.le_refl 0, .inl rfl⟩
  | succ limit ih =>
    cases colon : behindColon first inner with
    | none => simp [groups, colon]
    | some behind =>
    cases parts : (if limit = 0 then none else ipv4 behind) with
    | some found =>
      -- Decimal parts end the row.
      obtain ⟨address, rest⟩ := found
      obtain ⟨roomy, read⟩ := Option.ite_none_left_eq_some.mp parts
      obtain ⟨rfl, _⟩ := ipv4_eq_some_iff.mp read
      have whole : groups (limit + 1) first inner = (Ipv4.pair address, true, rest) := by
        simp only [groups, colon, parts]
      rw [whole]
      exact ⟨by simp [Ipv4.pair]; omega,
        .inr ⟨_, _, _, _, rfl, by simp [Ipv4.pair], rfl, .decimal address⟩⟩
    | none =>
    cases one : group behind with
    | none => simp [groups, colon, parts, one]
    | some found =>
      obtain ⟨value, rest⟩ := found
      obtain ⟨text, rfl, spelled, _⟩ := group_eq_some_iff.mp one
      have whole : groups (limit + 1) first inner =
          (value :: (groups limit false rest).1, (groups limit false rest).2.1,
            (groups limit false rest).2.2) := by
        simp only [groups, colon, parts, one]
      -- The row ends behind this group, or goes on behind a colon.
      obtain ⟨few, last | ⟨row, decimal, later, left, more, nonempty, mark, spelledRow⟩⟩ :=
        ih false rest
      · rw [whole]
        refine ⟨by simpa using few, .inr ⟨_, _, text, rest, ?_, by simp, rfl, .last spelled⟩⟩
        rw [last]
      · rw [whole, more]
        rw [more] at few
        have between : rest = ':' :: (later ++ left) := mark_eq_some_iff.mp mark
        exact ⟨by simpa using few, .inr ⟨_, _, text ++ ':' :: later, left, rfl, by simp,
          by rw [between]; simp, .cons spelled nonempty spelledRow⟩⟩

/-- A row at the front of a text is read as it is spelled, even if there are no groups in it. -/
theorem exists_row_of_groups (limit : Nat) (inner : List Char) :
    ∃ row decimal text rest, groups limit true inner = (row, decimal, rest) ∧
      inner = text ++ rest ∧ SpelledRow decimal row text ∧ row.length ≤ limit := by
  -- At the front no colon is needed, so what was read stands there itself.
  obtain ⟨few, none | ⟨row, decimal, text, rest, read, _, begun, spelled⟩⟩ :=
    row_of_groups limit true inner
  · exact ⟨[], false, [], inner, none, rfl, .nil, Nat.zero_le limit⟩
  · rw [read] at few
    exact ⟨row, decimal, text, rest, read, Option.some.inj begun, spelled, few⟩

/-- Eight groups are read from any of their spellings. -/
theorem ipv6_of_spelled {address : Ipv6} {text rest : List Char}
    (spelled : Spelled (.v6 address) text) (ends : Ends rest) :
    ipv6 (text ++ rest) = some (address, rest) := by
  -- The groups are all there in one row, or in two rows around a double colon.
  cases spelled with
  | @full _ decimal _ row =>
    have read := groups_of_row row (Nat.le_of_eq address.length_groups)
      (fun _ => rfl) (rfl : behindColon true _ = _) ends
    simp only [ipv6, read]
    simp [address.length_groups]
  | @compressed _ decimal head tail before behind front back room filled =>
    -- The first row ends at the double colon, and there is room for the second one behind it.
    have first := groups_of_row front (show head.length ≤ 8 by omega) (fun _ => rfl)
      (rfl : behindColon true (before ++ ':' :: ':' :: (behind ++ rest)) = _)
      ⟨stops_cons.mpr (by decide), by simp, by
        rintro _ ⟨⟩
        exact stops_cons.mpr (by decide)⟩
    have second := groups_of_row back (show tail.length ≤ 7 - head.length by omega) (fun _ => rfl)
      (rfl : behindColon true (behind ++ rest) = _) ends
    have partial' : ¬ head.length = 8 := by omega
    have marks : (mark ':' (':' :: ':' :: (behind ++ rest))).bind (mark ':') =
        some (behind ++ rest) := by
      simp [mark]
    rw [List.append_assoc, List.cons_append, List.cons_append]
    simp only [ipv6, first, partial', dite_false, Bool.false_eq_true, if_false, marks, second]
    simp [← filled, address.length_groups]

/-- Whatever is read as eight groups is spelled as such. -/
theorem spelled_of_ipv6 {text rest : List Char} {address : Ipv6}
    (read : ipv6 text = some (address, rest)) :
    ∃ front, text = front ++ rest ∧ Spelled (.v6 address) front := by
  -- The first row is all eight groups, or it must be followed by two colons.
  obtain ⟨head, decimal, before, left, first, rfl, front, few⟩ := exists_row_of_groups 8 text
  simp only [ipv6, first] at read
  split at read
  · -- All groups are there.
    obtain ⟨rfl, rfl⟩ := Prod.mk.inj (Option.some.inj read)
    exact ⟨before, rfl, .full front⟩
  -- The row is shorter, and a row that ended with decimal parts may not be.
  · rename_i partly
    cases decimal with
    | true => simp at read
    | false =>
    cases marks : (mark ':' left).bind (mark ':') with
    | none => simp [marks] at read
    | some behind =>
    obtain ⟨once, one, two⟩ := Option.bind_eq_some_iff.mp marks
    rw [mark_eq_some_iff] at one two
    subst one two
    obtain ⟨tail, decimal, later, last, second, rfl, back, room⟩ :=
      exists_row_of_groups (7 - head.length) behind
    simp only [Bool.false_eq_true, if_false, marks, second] at read
    split at read
    · obtain ⟨rfl, rfl⟩ := Prod.mk.inj (Option.some.inj read)
      exact ⟨before ++ ':' :: ':' :: later, by simp, .compressed front back (by omega) rfl⟩
    · cases read

/-- Eight groups have a colon where four decimal parts have a dot. -/
theorem ipv4_of_spelled_ipv6 {text : List Char} {address : Ipv6}
    (spelled : Spelled (.v6 address) text) : ipv4 text = none := by
  -- A colon is no digit of either radix.
  have colon (behind : List Char) : Stops 16 (':' :: behind) := stops_cons.mpr (by decide)
  -- The first group, if there is one, has a colon behind it.
  have begun {group : UInt16} {front : List Char} (one : SpelledGroup group front)
      (behind : List Char) : ipv4 (front ++ ':' :: behind) = none := by
    obtain ⟨values, digits, _⟩ := one
    exact ipv4_eq_none digits (colon behind) (by simp)
  -- In either form a colon comes behind the first group or at the very front.
  cases spelled with
  | full row =>
    have eight := address.length_groups
    generalize address.groups = groups at row eight
    cases row with
    | nil => cases eight
    | last => cases eight
    | decimal => cases eight
    | cons one _ _ => exact begun one _
  | compressed front _ _ _ =>
    cases front with
    | nil => exact ipv4_eq_none .nil (colon _) (by simp)
    | last one => exact begun one _
    | cons one _ _ =>
      rw [List.append_assoc, List.cons_append]
      exact begun one _

/-- A text is read as an address exactly if it is spelled as one. -/
theorem ofText?_eq_some_iff {text : List Char} {address : IpAddress} :
    ofText? text = some address ↔ Spelled address text := by
  -- Nothing may stand behind the address.
  have nothing : Ends [] := ⟨stops_nil 16, by simp, nofun⟩
  constructor
  -- Four decimal parts are tried first, and eight groups if there are none.
  · intro read
    unfold ofText? at read
    split at read
    · rename_i found
      obtain rfl := Option.some.inj read
      obtain ⟨rfl, _⟩ := ipv4_eq_some_iff.mp found
      rw [List.append_nil]
      exact .v4 _
    · cases read
    · split at read
      · rename_i found
        obtain rfl := Option.some.inj read
        obtain ⟨front, rfl, spelled⟩ := spelled_of_ipv6 found
        rwa [List.append_nil]
      · cases read
  -- Neither of the two forms is taken for the other.
  · intro spelled
    cases address with
    | v4 address =>
      cases spelled
      have read : ipv4 address.render = some (address, []) :=
        ipv4_eq_some_iff.mpr ⟨(List.append_nil _).symm, stops_nil 10⟩
      simp only [ofText?, read]
    | v6 address =>
      have read := ipv6_of_spelled spelled nothing
      rw [List.append_nil] at read
      simp only [ofText?, ipv4_of_spelled_ipv6 spelled, read]

end Address

end CallGate
