import CallGate.Json.Number

/-! Values nobody asked for are passed over, however deep they are nested.

Their numbers and strings are judged by form alone: a number may be past all doubles, and the
escapes of a string may stand for no character. -/

namespace CallGate.Json.Skip

/-- The digits at the front, if there are any. -/
def digits (text : List Char) : Except Fault (List Char) :=
  match Numeral.split 10 text with
  | ([], _) => .error .grammar
  | (_, rest) => .ok rest

/-- An exponent behind its letter. -/
def exponent (text : List Char) : Except Fault (List Char) :=
  match text with
  | '+' :: rest => digits rest
  | '-' :: rest => digits rest
  | _ => digits text

/-- What may follow the digits of a number. -/
def afterDigits (text : List Char) : Except Fault (List Char) :=
  match text with
  | 'e' :: rest => exponent rest
  | 'E' :: rest => exponent rest
  | _ => .ok text

/-- A number without its sign. A number that ends too early is no number at all. -/
def number (text : List Char) : Except Fault (List Char) := do
  let rest ← match text with
    | '0' :: c :: rest => if '0' ≤ c ∧ c ≤ '9' then throw Fault.grammar else pure (c :: rest)
    | _ => digits text
  match rest with
  | '.' :: rest => afterDigits (← digits rest)
  | _ => afterDigits rest

/-- A string behind its opening quote. -/
def string : (room : Nat) → List Char → Except Fault (List Char)
  | 0, _ => .error .ended
  | _ + 1, [] => .error .ended
  | room + 1, c :: rest =>
    if c = '"' then .ok rest
    else if c = '\\' then
      match rest with
      | [] => .error .ended
      | 'u' :: rest =>
        match hexWord rest with
        | .error fault => .error fault
        | .ok _ => string room (rest.drop 4)
      | letter :: rest =>
        if (escapes.lookup letter).isSome then string room rest else .error .grammar
    else if c.toNat < 0x20 then .error .grammar
    else string room rest

/-- A value in the middle of which the skipping stands. -/
inductive Enclosing where
  | list
  | object
  deriving DecidableEq, Repr

/-- The character that closes a value. -/
def Enclosing.closing : Enclosing → Char
  | list => ']'
  | object => '\x7d'

/-- What is to come next. -/
inductive Place where
  /-- A value. -/
  | value
  /-- The first member of the innermost value, or its end. -/
  | opened
  /-- A comma and one more member, or the end. -/
  | member
  deriving DecidableEq, Repr

/-- The key of a member and its colon, if the innermost value has keys. -/
def key (enclosing : Enclosing) (text : List Char) : Except Fault (List Char) :=
  match enclosing with
  | .list => .ok text
  | .object => do
    let rest ← mark '"' text
    let rest ← string rest.length rest
    mark ':' rest

/-- A value that is neither list nor object, from its first character on. -/
def scalar (text : List Char) : Except Fault (List Char) :=
  match text with
  | [] => .error .ended
  | 'n' :: rest => word ['u', 'l', 'l'] rest
  | 't' :: rest => word ['r', 'u', 'e'] rest
  | 'f' :: rest => word ['a', 'l', 's', 'e'] rest
  | '-' :: rest => number rest
  | '"' :: rest => string rest.length rest
  | c :: rest => if '0' ≤ c ∧ c ≤ '9' then number (c :: rest) else .error .grammar

/-- Passes over what is left of the enclosing values, the innermost first.

No two turns leave the text as it is, so twice its length is enough `fuel`. -/
def skip : (fuel : Nat) → Place → List Enclosing → List Char → Except Fault (List Char)
  | 0, _, _, _ => .error .ended
  | fuel + 1, .value, around, text =>
    match skipBlanks text with
    | '[' :: rest => skip fuel .opened (.list :: around) rest
    | '\x7b' :: rest => skip fuel .opened (.object :: around) rest
    | text =>
      match scalar text with
      | .error fault => .error fault
      | .ok rest => if around.isEmpty then .ok rest else skip fuel .member around rest
  | _ + 1, _, [], text => .ok text
  | fuel + 1, place, enclosing :: around, text =>
    match skipBlanks text with
    | [] => .error .ended
    | c :: rest =>
      if c = enclosing.closing then
        if around.isEmpty then .ok rest else skip fuel .member around rest
      else
        let start : Except Fault (List Char) :=
          if place = .opened then .ok (c :: rest)
          else if c = ',' then .ok rest
          else .error .grammar
        match start.bind (key enclosing) with
        | .error fault => .error fault
        | .ok rest => skip fuel .value (enclosing :: around) rest

/-- Passes over one value. -/
def value (text : List Char) : Except Fault (List Char) :=
  skip (2 * text.length + 1) .value [] text

end CallGate.Json.Skip
