import CallGate.Json.Skip

/-! Readers for the shapes a value may be wanted in. -/

namespace CallGate.Json

/-- The fault of a value that is not of the kind wanted, from its first character on.

It is read as far as it takes to know what it is, and faults on the way come first. -/
def mismatch (text : List Char) : Fault :=
  let judged : Except Fault Unit :=
    match text with
    | [] => .error .ended
    | 'n' :: rest => (word ['u', 'l', 'l'] rest).map fun _ => ()
    | 't' :: rest => (word ['r', 'u', 'e'] rest).map fun _ => ()
    | 'f' :: rest => (word ['a', 'l', 's', 'e'] rest).map fun _ => ()
    | '-' :: rest => (Number.negative rest).map fun _ => ()
    | '"' :: rest => (stringTail rest).map fun _ => ()
    | '[' :: _ => .ok ()
    | '\x7b' :: _ => .ok ()
    | c :: rest =>
      if '0' ≤ c ∧ c ≤ '9' then (Number.unsigned (c :: rest)).map fun _ => ()
      else .error .grammar
  match judged with
  | .error fault => fault
  | .ok () => .shape

/-- A natural number below a bound. -/
def natural (bound : Nat) : Reader UInt64 := fun text =>
  match skipBlanks text with
  | c :: rest =>
    if '0' ≤ c ∧ c ≤ '9' then
      match Number.unsigned (c :: rest) with
      | .error fault => .error fault
      | .ok (.other, _) => .error .shape
      | .ok (.natural value, rest) =>
        if value.toNat < bound then .ok (value, rest) else .error .shape
    else .error (mismatch (c :: rest))
  | [] => .error .ended

/-- A string. -/
def text : Reader String := fun text =>
  match skipBlanks text with
  | '"' :: rest => stringTail rest
  | other => .error (mismatch other)

/-- The word for no value. -/
def nothing : Reader Unit := fun text =>
  match skipBlanks text with
  | 'n' :: rest => (word ['u', 'l', 'l'] rest).map fun rest => ((), rest)
  | other => .error (mismatch other)

/-- A string, or the word for no value. -/
def optionalText : Reader (Option String) := fun input =>
  match skipBlanks input with
  | 'n' :: rest => (word ['u', 'l', 'l'] rest).map fun rest => (none, rest)
  | other => (text other).map fun (value, rest) => (some value, rest)

/-- The key of the next member of an object, or nothing behind its end. -/
def nextKey (first : Bool) : Reader (Option String) := fun text => do
  let quoted (text : List Char) : Except Fault (Option String × List Char) := do
    let (key, rest) ← stringTail (← mark '"' text)
    return (some key, rest)
  match skipBlanks text with
  | [] => throw .ended
  | '\x7d' :: rest => return (none, rest)
  | c :: rest =>
    if first then quoted (c :: rest)
    else if c = ',' then quoted rest
    else throw .grammar

/-- Passes to the next element of a list and answers true, or to its end. -/
def nextElement (first : Bool) : Reader Bool := fun text => do
  match skipBlanks text with
  | [] => throw .ended
  | ']' :: rest => return (false, rest)
  | c :: rest =>
    if first then return (true, c :: rest)
    else if c = ',' then
      -- A comma announces an element.
      match skipBlanks rest with
      | [] => throw .ended
      | ']' :: _ => throw .grammar
      | rest => return (true, rest)
    else throw .grammar

/-- How a value of several fields is written: by name in an object, or in order in a list. -/
structure RecordForm (α : Type) where
  /-- The fields in order, and how each is read into a value. -/
  fields : List (String × (α → Reader α))
  /-- Whether every field must be given. -/
  complete : Bool
  /-- Whether other names are refused, not passed over. -/
  exclusive : Bool

namespace RecordForm

variable {α : Type}

/-- Reads members of an object up to its end. There are no more of them than characters left. -/
def members (form : RecordForm α) : (room : Nat) → (first : Bool) → (given : List String) →
    α → Reader (List String × α)
  | 0, _, _, _, _ => .error .ended
  | room + 1, first, given, value, text => do
    let (key, rest) ← nextKey first text
    match key with
    | none => return ((given, value), rest)
    | some key =>
      match form.fields.lookup key with
      | none =>
        if form.exclusive then throw .shape
        else members form room false given value (← Skip.value (← mark ':' rest))
      | some read =>
        -- A second value for a field is refused before it is read.
        if given.contains key then throw .shape
        else
          let (value, rest) ← read value (← mark ':' rest)
          members form room false (key :: given) value rest

/-- Reads elements of a list for the given fields, up to its end. -/
def elements : List (String × (α → Reader α)) → (first : Bool) → (given : List String) →
    α → Reader (List String × α)
  | [], _, given, value, text => do
    let rest ← mark ']' text
    return ((given, value), rest)
  | (name, read) :: fields, first, given, value, text => do
    let (more, rest) ← nextElement first text
    if more then
      let (value, rest) ← read value rest
      elements fields false (name :: given) value rest
    else return ((given, value), rest)

/-- Reads a value of several fields into one that is there already. -/
def read (form : RecordForm α) (start : α) : Reader α := fun text => do
  let ((given, value), rest) ← match skipBlanks text with
    | '\x7b' :: rest => form.members rest.length true [] start rest
    | '[' :: rest => elements form.fields true [] start rest
    | other => throw (mismatch other)
  if form.complete ∧ ¬ form.fields.all (given.contains ·.1) then throw .shape
  return (value, rest)

end RecordForm

/-- Reads a whole text, behind which only blanks may stand. -/
def complete {α : Type} (read : Reader α) (text : String) : Except Fault α := do
  let (value, rest) ← read text.toList
  if (skipBlanks rest).isEmpty then return value else throw .grammar

end CallGate.Json
