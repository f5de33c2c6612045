import CallGate.Numeral

/-! Blanks, words and strings of JSON texts, read from the front. The first fault ends a reading. -/

namespace CallGate.Json

/-- Why a text cannot be read. -/
inductive Fault where
  /-- The text ends in the middle of a value. -/
  | ended
  /-- The text is no JSON. -/
  | grammar
  /-- The text is JSON for something else. -/
  | shape
  deriving DecidableEq, Repr

/-- Reads a value from the front of a text, and leaves the rest. -/
abbrev Reader (α : Type) := List Char → Except Fault (α × List Char)

/-- The characters that may stand between any two tokens. -/
def isBlank (c : Char) : Bool := c = ' ' || c = '\n' || c = '\t' || c = '\r'

/-- Passes over blanks. -/
def skipBlanks : List Char → List Char
  | [] => []
  | c :: rest => if isBlank c then skipBlanks rest else c :: rest

/-- Passing over blanks leaves no more than there was. -/
@[simp] theorem length_skipBlanks_le (text : List Char) :
    (skipBlanks text).length ≤ text.length := by
  induction text with
  | nil => simp [skipBlanks]
  | cons c rest ih =>
    rw [skipBlanks]
    split
    · exact Nat.le_succ_of_le ih
    · exact Nat.le_refl _

/-- Passes over the given characters. -/
def word : (expected : List Char) → List Char → Except Fault (List Char)
  | [], text => .ok text
  | _ :: _, [] => .error .ended
  | c :: expected, d :: rest => if c = d then word expected rest else .error .grammar

/-- Passes over blanks and one character. -/
def mark (expected : Char) (text : List Char) : Except Fault (List Char) :=
  match skipBlanks text with
  | [] => .error .ended
  | c :: rest => if c = expected then .ok rest else .error .grammar

/-- How many bytes a stretch of text takes up. -/
def byteLength (text : List Char) : Nat := text.foldl (fun total c => total + c.utf8Size) 0

/-- The number that four hexadecimal digits at the front stand for.

With fewer than four bytes left the text ends too early, whatever they are. -/
def hexWord (text : List Char) : Except Fault Nat :=
  match (text.take 4).mapM (Numeral.digitValue? 16) with
  | some digits => if digits.length = 4 then .ok (Numeral.value 16 digits) else .error .ended
  | none => if byteLength (text.take 4) < 4 then .error .ended else .error .grammar

/-- The character that a backslash and a letter stand for, but for the letter `u`. -/
def escapes : List (Char × Char) :=
  [('"', '"'), ('\\', '\\'), ('/', '/'), ('b', '\x08'), ('f', '\x0c'), ('n', '\n'), ('r', '\r'),
    ('t', '\t')]

/-- The character of a number that is no surrogate. -/
def plain (number : Nat) : Except Fault Char :=
  if 0xDC00 ≤ number ∧ number ≤ 0xDFFF then .error .grammar else .ok (Char.ofNat number)

/-- The character of a numbered escape, behind its letter.

A high surrogate and the low one that must follow it stand for one character. -/
def numbered (text : List Char) : Except Fault (Char × List Char) := do
  let high ← hexWord text
  let rest := text.drop 4
  if 0xD800 ≤ high ∧ high ≤ 0xDBFF then
    let rest ← word ['\\', 'u'] rest
    let low ← hexWord rest
    if 0xDC00 ≤ low ∧ low ≤ 0xDFFF then
      return (Char.ofNat (0x10000 + (high - 0xD800) * 0x400 + (low - 0xDC00)), rest.drop 4)
    else throw .grammar
  else
    let c ← plain high
    return (c, rest)

/-- The character of an escape, behind its backslash. -/
def escape (text : List Char) : Except Fault (Char × List Char) :=
  match text with
  | [] => .error .ended
  | 'u' :: rest => numbered rest
  | c :: rest =>
    match escapes.lookup c with
    | some meaning => .ok (meaning, rest)
    | none => .error .grammar

/-- The characters of a string, behind its opening quote, up to and over the closing one.

There are never more of them than characters left, so `room` is the length of the text. -/
def characters : (room : Nat) → Reader (List Char)
  | 0, _ => .error .ended
  | _ + 1, [] => .error .ended
  | room + 1, c :: rest => do
    if c = '"' then return ([], rest)
    else if c = '\\' then
      let (meaning, rest) ← escape rest
      let (more, rest) ← characters room rest
      return (meaning :: more, rest)
    else if c.toNat < 0x20 then throw .grammar
    else
      let (more, rest) ← characters room rest
      return (c :: more, rest)

/-- The rest of a string, behind its opening quote. -/
def stringTail : Reader String := fun text => do
  let (characters, rest) ← characters text.length text
  return (String.ofList characters, rest)

end CallGate.Json
