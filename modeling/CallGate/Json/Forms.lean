import CallGate.Flags
import CallGate.Identity
import CallGate.Json.Read
import CallGate.Json.Write
import CallGate.Register

/-! How registers, flags and identifiers are written in JSON. -/

namespace CallGate

open Json

namespace RegisterFile

/-- Every slot is one field, and all of them must be given. Others are passed over. -/
def form : RecordForm RegisterFile where
  fields := Slot.all.map fun slot =>
    (slot.name, fun file text => do
      let (word, rest) ← natural UInt64.size text
      return (file.write slot word, rest))
  complete := true
  exclusive := false

/-- Reads a register file. -/
def ofJson (text : String) : Except Fault RegisterFile := complete (form.read {}) text

/-- Writes a register file, slots in layout order. -/
def toJson (file : RegisterFile) : String :=
  String.ofList (writeObject (Slot.all.map fun slot =>
    (slot.name, writeNatural (file.read slot).toNat)))

end RegisterFile

/-- Reads flags, which are written as a number. -/
def Flags.ofJson (text : String) : Except Fault Flags :=
  (complete (natural UInt64.size) text).map Flags.mk

/-- Writes flags. -/
def Flags.toJson (flags : Flags) : String := String.ofList (writeNatural flags.bits.toNat)

/-- Reads the handle of a connection, which is written as a number. -/
def ConnectionId.ofJson (text : String) : Except Fault ConnectionId :=
  (complete (natural UInt64.size) text).map ConnectionId.mk

/-- Writes the handle of a connection. -/
def ConnectionId.toJson (id : ConnectionId) : String :=
  String.ofList (writeNatural id.number.toNat)

namespace SessionId

/-- An identifier in any of its spellings. -/
def reader : Reader SessionId := fun input => do
  let (spelling, rest) ← Json.text input
  match ofText? spelling with
  | some id => return (id, rest)
  | none => throw .shape

/-- Reads the identifier of a session. -/
def ofJson (text : String) : Except Fault SessionId := complete reader text

/-- Writes the identifier of a session, hyphenated. -/
def toJson (id : SessionId) : String := String.ofList (writeText id.uuid)

end SessionId

namespace Register

/-- The register with the name read. -/
def named (name : String) : Except Fault Register :=
  match ofTitle? name with
  | some register => .ok register
  | none => .error .shape

/-- A name by itself, or an object with the name as its only key and nothing as its value. -/
def reader : Reader Register := fun input =>
  match skipBlanks input with
  | [] => .error .ended
  | '"' :: rest => do
    let (name, rest) ← stringTail rest
    return (← named name, rest)
  | '\x7b' :: rest => do
    let (name, rest) ← stringTail (← mark '"' rest)
    let register ← named name
    let ((), rest) ← nothing (← mark ':' rest)
    return (register, ← mark '\x7d' rest)
  | _ => .error .grammar

/-- Reads a register. -/
def ofJson (text : String) : Except Fault Register := complete reader text

/-- Writes a register by its name. -/
def toJson (register : Register) : String := String.ofList (writeText register.title)

end Register

end CallGate
