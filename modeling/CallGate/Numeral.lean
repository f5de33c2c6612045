/-! Numbers written in a radix of up to sixteen. -/

namespace CallGate.Numeral

/-- The character of a digit: decimal digits first, then lower-case letters. -/
def digit (value : Nat) : Char :=
  if value < 10 then Char.ofNat (48 + value) else Char.ofNat (87 + value)

/-- The value of a digit of either case, when the radix has such a digit. -/
def digitValue? (radix : Nat) (c : Char) : Option Nat :=
  let value? :=
    if '0' ≤ c ∧ c ≤ '9' then some (c.toNat - 48)
    else if 'a' ≤ c ∧ c ≤ 'f' then some (c.toNat - 87)
    else if 'A' ≤ c ∧ c ≤ 'F' then some (c.toNat - 55)
    else none
  value?.filter (· < radix)

/-- The digits of a number, most significant first and at least one. -/
def render (radix number : Nat) : List Char :=
  -- A number below the radix is one digit, and any other ends in its last digit.
  if radix < 2 ∨ number < radix then [digit number]
  else render radix (number / radix) ++ [digit (number % radix)]
termination_by number
decreasing_by
  rename_i more
  exact Nat.div_lt_self (by omega) (by omega)

/-- The digits at the front of a text, and what follows them. -/
def split (radix : Nat) : List Char → List Nat × List Char
  | [] => ([], [])
  | c :: rest =>
    match digitValue? radix c with
    | some value =>
      let (values, rest) := split radix rest
      (value :: values, rest)
    | none => ([], c :: rest)

/-- The number with the given digits, most significant first. -/
def value (radix : Nat) (digits : List Nat) : Nat :=
  digits.foldl (fun number digit => number * radix + digit) 0

/-- The number a text consists of, when it is digits throughout and at least one. -/
def ofText? (radix : Nat) (text : List Char) : Option Nat :=
  match split radix text with
  | ([], _) => none
  | (digits, []) => some (value radix digits)
  | _ => none

/-- The decimal number a text consists of, behind a plus sign or none. -/
def unsigned? : List Char → Option Nat
  | '+' :: digits => ofText? 10 digits
  | digits => ofText? 10 digits

/-- The decimal number a text consists of, behind a sign of either sort or none. -/
def signed? : List Char → Option Int
  | '-' :: digits => (ofText? 10 digits).map fun value => -(value : Int)
  | text => (unsigned? text).map fun value => (value : Int)

end CallGate.Numeral
