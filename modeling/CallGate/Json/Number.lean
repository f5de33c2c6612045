import CallGate.Json.Scan

/-! Numbers in JSON texts. Only natural numbers of 64 bits have a meaning here.

All others are read to their end, and refused when no double comes near them. -/

namespace CallGate.Json

/-- What a number turns out to be. -/
inductive Number where
  | natural (value : UInt64)
  /-- It has a sign, a fraction or an exponent, or does not fit in 64 bits. -/
  | other
  deriving DecidableEq, Repr

namespace Number

/-- Appends digits to a significand for as long as it fits in 64 bits. Answers what is left. -/
def absorb (significand : Nat) : List Nat → Nat × List Nat
  | [] => (significand, [])
  | digit :: rest =>
    if significand * 10 + digit < UInt64.size then absorb (significand * 10 + digit) rest
    else (significand, digit :: rest)

/-- The nearest number with 53 significant bits, the even one of two. -/
def roundToDouble (number : Nat) : Nat :=
  let unit := Nat.pow 2 (number.log2 + 1 - 53)
  let quotient := number / unit
  let twice := 2 * (number % unit)
  if unit < twice ∨ (twice = unit ∧ quotient % 2 = 1) then (quotient + 1) * unit
  else quotient * unit

/-- The least number that no longer rounds to the largest double. -/
def doubleLimit : Nat := Nat.pow 2 1024 - Nat.pow 2 970

/-- The product of a significand and a power of ten lies past all doubles.

Both are rounded before they are multiplied. -/
def isTooLarge (significand : Nat) (exponent : Int) : Bool :=
  if significand = 0 ∨ exponent < 0 then false
  else if 308 < exponent then true
  else doubleLimit ≤ roundToDouble significand * roundToDouble (Nat.pow 10 exponent.toNat)

/-- Refuses numbers past all doubles. -/
def checkRange (significand : Nat) (exponent : Int) : Except Fault Unit :=
  if isTooLarge significand exponent then .error .grammar else .ok ()

/-- At least one digit must stand at the front. -/
def digits : Reader (List Nat) := fun text =>
  match Numeral.split 10 text with
  | ([], []) => .error .ended
  | ([], _ :: _) => .error .grammar
  | (digits, rest) => .ok (digits, rest)

/-- The largest exponent that is still computed with. -/
def exponentLimit : Nat := 2147483647

/-- The exponent of a number, behind its letter, whose point was moved by `shift` places. -/
def exponent (significand : Nat) (shift : Int) (text : List Char) :
    Except Fault (List Char) := do
  let (negative, text) := match text with
    | '+' :: rest => (false, rest)
    | '-' :: rest => (true, rest)
    | _ => (false, text)
  let (digits, rest) ← digits text
  let size := Numeral.value 10 digits
  if exponentLimit < size then
    -- A zero stays zero, and everything else vanishes or grows past all doubles.
    if significand ≠ 0 ∧ ¬ negative then throw .grammar
  else checkRange significand (if negative then shift - size else shift + size)
  return rest

/-- The fraction of a number, behind its point, and the exponent that may follow. -/
def fraction (significand : Nat) (shift : Int) (text : List Char) :
    Except Fault (List Char) := do
  let (digits, rest) ← digits text
  let (significand, left) := absorb significand digits
  let shift := shift - (digits.length - left.length : Nat)
  match rest with
  | c :: behind =>
    if c = 'e' ∨ c = 'E' then exponent significand shift behind
    else
      checkRange significand shift
      return rest
  | [] =>
    checkRange significand shift
    return rest

/-- The digits before the point. A zero stands alone. -/
def whole : Reader (List Nat) := fun text => do
  match text with
  | '0' :: c :: rest =>
    if ('0' ≤ c ∧ c ≤ '9') then throw .grammar else return ([0], c :: rest)
  | text => digits text

/-- A number without its sign. -/
def unsigned : Reader Number := fun text => do
  let (digits, rest) ← whole text
  let (significand, left) := absorb 0 digits
  let shift : Int := left.length
  match rest with
  | '.' :: behind =>
    let rest ← fraction significand shift behind
    return (.other, rest)
  | c :: behind =>
    if c = 'e' ∨ c = 'E' then
      let rest ← exponent significand shift behind
      return (.other, rest)
    else if left.isEmpty then return (.natural (UInt64.ofNat significand), rest)
    else
      checkRange significand shift
      return (.other, rest)
  | [] =>
    if left.isEmpty then return (.natural (UInt64.ofNat significand), rest)
    else
      checkRange significand shift
      return (.other, rest)

/-- A number behind a minus sign, which is never natural. -/
def negative : Reader Number := fun text => do
  let (_, rest) ← unsigned text
  return (.other, rest)

end Number

end CallGate.Json
