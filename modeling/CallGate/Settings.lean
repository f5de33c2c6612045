import CallGate.Address
import CallGate.Files
import CallGate.Json.Read
import CallGate.Json.Write
import CallGate.Time

/-! What a server is told before it starts: a file of settings, overlaid by single settings. -/

namespace CallGate

/-- Every setting of a server. The three paths have no value to fall back to. -/
structure Settings where
  host : String := "0.0.0.0"
  port : UInt16 := 1234
  maxClients : UInt64 := 128
  publicKey : Option String := none
  privateKey : Option String := none
  /-- The file that describes the regions. -/
  descriptor : Option String := none
  pollMilliseconds : UInt64 := 1000
  idleSeconds : UInt64 := 30
  deriving DecidableEq, Repr, Inhabited

/-- Settings given one by one, which leave all others as they are. -/
structure Overrides where
  host : Option String := none
  port : Option UInt16 := none
  maxClients : Option UInt64 := none
  publicKey : Option String := none
  privateKey : Option String := none
  descriptor : Option String := none
  /-- The file the other settings come from. -/
  file : Option String := none
  pollMilliseconds : Option UInt64 := none
  idleSeconds : Option UInt64 := none
  deriving DecidableEq, Repr, Inhabited

/-- Why settings cannot be used. -/
inductive SettingsError where
  | unreadable (path : String) (cause : IoError)
  | unparsable (fault : Json.Fault)
  /-- A path was given nowhere. -/
  | missing (name : String)
  | invalid (name reason : String)
  deriving DecidableEq, Repr

namespace SettingsError

/-- What is wrong with the text of a file. -/
def explain : Json.Fault → String
  | .ended => "the text ends too early"
  | .grammar => "the text is not JSON"
  | .shape => "a value is not what it should be"

/-- What is reported for settings. -/
def message : SettingsError → String
  | unreadable path cause => s!"Failed to read config file {path}: {cause.message}"
  | unparsable fault => s!"Invalid config file: {explain fault}"
  | missing name => s!"Missing required setting: {name}"
  | invalid name reason => s!"Invalid setting {name}: {reason}"

end SettingsError

/-- Settings a server can start from. -/
structure LaunchPlan where
  bindAddress : String
  maxClients : UInt64
  publicKey : String
  privateKey : String
  descriptor : String
  pollInterval : Duration
  idleTimeout : Duration
  deriving DecidableEq, Repr

namespace Settings

open Json in
/-- The fields of a settings file. All of them may be left out, and no others may be given. -/
def form : RecordForm Settings where
  fields := [
    ("host", fun settings input => do
      let (host, rest) ← text input
      return ({ settings with host }, rest)),
    ("port", fun settings input => do
      let (port, rest) ← natural UInt16.size input
      return ({ settings with port := port.toUInt16 }, rest)),
    ("max_clients", fun settings input => do
      let (maxClients, rest) ← natural UInt64.size input
      return ({ settings with maxClients }, rest)),
    ("public_key", fun settings input => do
      let (publicKey, rest) ← optionalText input
      return ({ settings with publicKey }, rest)),
    ("private_key", fun settings input => do
      let (privateKey, rest) ← optionalText input
      return ({ settings with privateKey }, rest)),
    ("tether", fun settings input => do
      let (descriptor, rest) ← optionalText input
      return ({ settings with descriptor }, rest)),
    ("poll_interval_ms", fun settings input => do
      let (pollMilliseconds, rest) ← natural UInt64.size input
      return ({ settings with pollMilliseconds }, rest)),
    ("idle_timeout_secs", fun settings input => do
      let (idleSeconds, rest) ← natural UInt64.size input
      return ({ settings with idleSeconds }, rest))]
  complete := false
  exclusive := true

/-- Reads a settings file. What it leaves out keeps its default. -/
def ofJson (text : String) : Except Json.Fault Settings := Json.complete (form.read {}) text

open Json in
/-- Writes all settings. -/
def toJson (settings : Settings) : String :=
  String.ofList (writeObject [
    ("host", writeText settings.host),
    ("port", writeNatural settings.port.toNat),
    ("max_clients", writeNatural settings.maxClients.toNat),
    ("public_key", writeOptionalText settings.publicKey),
    ("private_key", writeOptionalText settings.privateKey),
    ("tether", writeOptionalText settings.descriptor),
    ("poll_interval_ms", writeNatural settings.pollMilliseconds.toNat),
    ("idle_timeout_secs", writeNatural settings.idleSeconds.toNat)])

/-- Replaces every setting that was given by itself. -/
def overlay (settings : Settings) (given : Overrides) : Settings where
  host := given.host.getD settings.host
  port := given.port.getD settings.port
  maxClients := given.maxClients.getD settings.maxClients
  publicKey := given.publicKey.or settings.publicKey
  privateKey := given.privateKey.or settings.privateKey
  descriptor := given.descriptor.or settings.descriptor
  pollMilliseconds := given.pollMilliseconds.getD settings.pollMilliseconds
  idleSeconds := given.idleSeconds.getD settings.idleSeconds

/-- The settings of a file. -/
def load (read : ReadFile) (path : String) : Except SettingsError Settings :=
  match read.text path with
  | .error cause => .error (.unreadable path cause)
  | .ok text =>
    match ofJson text with
    | .error fault => .error (.unparsable fault)
    | .ok settings => .ok settings

/-- The settings of the file that is named, if one is, under those given by themselves. -/
def gather (read : ReadFile) (given : Overrides) : Except SettingsError Settings :=
  match given.file with
  | none => .ok (({} : Settings).overlay given)
  | some path =>
    match load read path with
    | .error error => .error error
    | .ok settings => .ok (settings.overlay given)

/-- Where to listen. Addresses are written in their canonical form, and names as they are. -/
def bindAddress (host : String) (port : UInt16) : String :=
  match Address.ofText? host.toList with
  | some ip => SocketAddress.display { ip, port }
  | none => String.ofList (host.toList ++ ':' :: Numeral.render 10 port.toNat)

/-- A setting that must have been given. -/
def require (name : String) : Option String → Except SettingsError String
  | some value => .ok value
  | none => .error (.missing name)

/-- A setting that must not be zero. -/
def requirePositive (name : String) (value : UInt64) : Except SettingsError Unit :=
  if value = 0 then .error (.invalid name "must be at least 1") else .ok ()

/-- The plan that settings amount to, if nothing needed is missing or zero. -/
def validate (settings : Settings) : Except SettingsError LaunchPlan := do
  let publicKey ← require "pubkey" settings.publicKey
  let privateKey ← require "privkey" settings.privateKey
  let descriptor ← require "tether" settings.descriptor
  requirePositive "max_clients" settings.maxClients
  requirePositive "idle_timeout_secs" settings.idleSeconds
  return {
    bindAddress := bindAddress settings.host settings.port
    maxClients := settings.maxClients
    publicKey, privateKey, descriptor
    pollInterval := .ofMilliseconds settings.pollMilliseconds
    idleTimeout := .ofSeconds settings.idleSeconds }

end Settings

end CallGate
