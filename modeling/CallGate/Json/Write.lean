import CallGate.Numeral

/-! JSON texts without blanks. -/

namespace CallGate.Json

/-- A character within quotes. Control characters are written by name or by number. -/
def writeCharacter (c : Char) : List Char :=
  if c = '"' then ['\\', '"']
  else if c = '\\' then ['\\', '\\']
  else if c = '\x08' then ['\\', 'b']
  else if c = '\x0c' then ['\\', 'f']
  else if c = '\n' then ['\\', 'n']
  else if c = '\r' then ['\\', 'r']
  else if c = '\t' then ['\\', 't']
  else if c.toNat < 0x20 then
    ['\\', 'u', '0', '0', Numeral.digit (c.toNat / 16), Numeral.digit (c.toNat % 16)]
  else [c]

/-- A string in quotes. -/
def writeText (text : String) : List Char :=
  '"' :: text.toList.flatMap writeCharacter ++ ['"']

/-- A natural number in decimal. -/
def writeNatural (number : Nat) : List Char := Numeral.render 10 number

/-- A string, or the word for no value. -/
def writeOptionalText : Option String → List Char
  | none => "null".toList
  | some text => writeText text

/-- An object with the given members, whose values are written already. -/
def writeObject (members : List (String × List Char)) : List Char :=
  let written := members.map fun (name, value) => writeText name ++ ':' :: value
  '\x7b' :: [','].intercalate written ++ ['\x7d']

end CallGate.Json
