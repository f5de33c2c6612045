import CallGate.Settings

/-! The command line: options with values, each given at most once.

A value that stands apart from its option is judged when the next option begins or the line ends.
Until then an unknown argument comes first. A value that is attached is judged at once. -/

namespace CallGate

/-- The options that take a value. -/
inductive Parameter where
  | host
  | port
  | maxClients
  | publicKey
  | privateKey
  | descriptor
  | file
  | pollMilliseconds
  | idleSeconds
  deriving DecidableEq, Repr

namespace Parameter

/-- Every option that takes a value. -/
def all : List Parameter :=
  [host, port, maxClients, publicKey, privateKey, descriptor, file, pollMilliseconds, idleSeconds]

/-- The name of an option, behind two hyphens. -/
def long : Parameter → String
  | host => "host"
  | port => "port"
  | maxClients => "max-clients"
  | publicKey => "pubkey"
  | privateKey => "privkey"
  | descriptor => "tether"
  | file => "config"
  | pollMilliseconds => "poll-interval-ms"
  | idleSeconds => "idle-timeout-secs"

/-- The letter of an option, behind one hyphen. Few have one. -/
def short? : Parameter → Option Char
  | host => some 'H'
  | port => some 'p'
  | maxClients => some 'c'
  | _ => none

/-- What an option is for. -/
def purpose : Parameter → String
  | host => "Address to listen on [default: 0.0.0.0]"
  | port => "Port to listen on [default: 1234]"
  | maxClients => "Maximum simultaneous clients [default: 128]"
  | publicKey => "Raw 32-byte server public key file"
  | privateKey => "Raw 32-byte server private key file"
  | descriptor => "Tether region descriptor file"
  | file => "JSON configuration file"
  | pollMilliseconds => "Longest wait for network events per loop iteration [default: 1000]"
  | idleSeconds => "Seconds of silence before a client is dropped [default: 30]"

/-- The option with the given name. -/
def ofLong? (name : String) : Option Parameter := all.find? fun parameter => parameter.long == name

/-- The option with the given letter. -/
def ofShort? (letter : Char) : Option Parameter :=
  all.find? fun parameter => parameter.short? == some letter

/-- The option was given. -/
def isGiven (given : Overrides) : Parameter → Bool
  | host => given.host.isSome
  | port => given.port.isSome
  | maxClients => given.maxClients.isSome
  | publicKey => given.publicKey.isSome
  | privateKey => given.privateKey.isSome
  | descriptor => given.descriptor.isSome
  | file => given.file.isSome
  | pollMilliseconds => given.pollMilliseconds.isSome
  | idleSeconds => given.idleSeconds.isSome

end Parameter

/-- Why a command line yields no settings. -/
inductive ArgumentError where
  /-- Nothing is wrong, but help was asked for. -/
  | helpRequested
  | unknown (argument : String)
  | valueMissing (parameter : Parameter)
  | valueNotAllowed (argument : String)
  | valueInvalid (parameter : Parameter) (value : String)
  | repeated (parameter : Parameter)
  deriving DecidableEq, Repr

namespace Arguments

/-- What the program is for, and its options. -/
def help : String :=
  let line (parameter : Parameter) : String :=
    let letter := match parameter.short? with
      | some c => String.ofList ['-', c, ',', ' ']
      | none => "    "
    "  " ++ letter ++ "--" ++ parameter.long ++ " <VALUE>  " ++ parameter.purpose ++ "\n"
  "Runs preloaded native code regions for authenticated remote clients\n\nOptions:\n" ++
    String.join (Parameter.all.map line) ++ "  -h, --help  Print help\n"

end Arguments

/-- What is reported for a command line. -/
def ArgumentError.message : ArgumentError → String
  | helpRequested => Arguments.help
  | unknown argument => "error: unexpected argument '" ++ argument ++ "' found"
  | valueMissing parameter => "error: a value is required for '--" ++ parameter.long ++ "'"
  | valueNotAllowed argument => "error: unexpected value for '" ++ argument ++ "' found"
  | valueInvalid parameter value =>
    "error: invalid value '" ++ value ++ "' for '--" ++ parameter.long ++ "'"
  | repeated parameter =>
    "error: the argument '--" ++ parameter.long ++ "' cannot be used multiple times"

namespace Arguments

/-- A path, which has at least one character. -/
def path (parameter : Parameter) (text : String) : Except ArgumentError String :=
  if text.isEmpty then .error (.valueMissing parameter) else .ok text

/-- A number of 64 bits. -/
def count (parameter : Parameter) (text : String) : Except ArgumentError UInt64 :=
  match Numeral.unsigned? text.toList with
  | some value =>
    if value < UInt64.size then .ok (UInt64.ofNat value) else .error (.valueInvalid parameter text)
  | none => .error (.valueInvalid parameter text)

/-- A port. The sign of a zero does not matter. -/
def port (text : String) : Except ArgumentError UInt16 :=
  match Numeral.signed? text.toList with
  | some value =>
    if 0 ≤ value ∧ value < 65536 then .ok (UInt16.ofNat value.toNat)
    else .error (.valueInvalid .port text)
  | none => .error (.valueInvalid .port text)

/-- Reads the value of an option and adds it to those given before. -/
def assign (given : Overrides) (parameter : Parameter) (text : String) :
    Except ArgumentError Overrides :=
  match parameter with
  | .host => .ok { given with host := some text }
  | .port => (port text).map fun value => { given with port := some value }
  | .maxClients => (count parameter text).map fun value => { given with maxClients := some value }
  | .publicKey => (path parameter text).map fun value => { given with publicKey := some value }
  | .privateKey => (path parameter text).map fun value => { given with privateKey := some value }
  | .descriptor => (path parameter text).map fun value => { given with descriptor := some value }
  | .file => (path parameter text).map fun value => { given with file := some value }
  | .pollMilliseconds =>
    (count parameter text).map fun value => { given with pollMilliseconds := some value }
  | .idleSeconds => (count parameter text).map fun value => { given with idleSeconds := some value }

/-- Judges an option: it needs a value, must be new, and its value must be right. -/
def judge (given : Overrides) (parameter : Parameter) (value : Option String) :
    Except ArgumentError Overrides :=
  match value with
  | none => .error (.valueMissing parameter)
  | some text =>
    if parameter.isGiven given then .error (.repeated parameter) else assign given parameter text

/-- An option that is still to be judged. -/
structure Pending where
  parameter : Parameter
  /-- Its value, once it was met. -/
  value : Option String

/-- Judges the option that is still to be judged, if there is one. -/
def settle (given : Overrides) : Option Pending → Except ArgumentError Overrides
  | none => .ok given
  | some pending => judge given pending.parameter pending.value

/-- What an argument looks like. -/
inductive Form where
  /-- Two hyphens: options end here. -/
  | separator
  /-- A name behind two hyphens, and a value behind an equals sign. -/
  | long (name : String) (attached : Option String)
  /-- A letter behind one hyphen, and all that is attached to it. -/
  | short (letter : Char) (attached : Option String)
  /-- Anything else, a lone hyphen among it. -/
  | plain

/-- What an argument looks like. -/
def form (argument : String) : Form :=
  match argument.toList with
  | ['-', '-'] => .separator
  | '-' :: '-' :: text =>
    let name := text.takeWhile (· ≠ '=')
    let attached := match text.dropWhile (· ≠ '=') with
      | _ :: value => some (String.ofList value)
      | [] => none
    .long (String.ofList name) attached
  | '-' :: letter :: text =>
    -- An equals sign may stand between the letter and its value.
    let attached := match text with
      | [] => none
      | '=' :: value => some (String.ofList value)
      | value => some (String.ofList value)
    .short letter attached
  | _ => .plain

/-- An option begins. Its value is judged with it when it is attached. -/
def begin (given : Overrides) (pending : Option Pending) (parameter : Parameter)
    (attached : Option String) : Except ArgumentError (Overrides × Option Pending) := do
  let given ← settle given pending
  match attached with
  | none => return (given, some ⟨parameter, none⟩)
  | some value => return (← judge given parameter (some value), none)

/-- Reads arguments, given those read before. -/
def read : List String → Overrides → Option Pending → Except ArgumentError Overrides
  | [], given, pending => settle given pending
  | argument :: rest, given, pending =>
    match form argument with
    | .separator =>
      match rest with
      | [] => settle given pending
      | behind :: _ => .error (.unknown behind)
    | .long name attached =>
      if name = "help" then
        match attached with
        | some _ => .error (.valueNotAllowed argument)
        | none => (settle given pending).bind fun _ => .error .helpRequested
      else
        match Parameter.ofLong? name with
        | none => .error (.unknown argument)
        | some parameter =>
          match begin given pending parameter attached with
          | .error error => .error error
          | .ok (given, pending) => read rest given pending
    | .short letter attached =>
      if letter = 'h' then (settle given pending).bind fun _ => .error .helpRequested
      else
        match Parameter.ofShort? letter with
        | none => .error (.unknown argument)
        | some parameter =>
          match begin given pending parameter attached with
          | .error error => .error error
          | .ok (given, pending) => read rest given pending
    | .plain =>
      -- Without an option that waits for a value, the argument belongs to nothing.
      match pending with
      | some ⟨parameter, none⟩ => read rest given (some ⟨parameter, some argument⟩)
      | _ => .error (.unknown argument)

/-- The settings given by the arguments behind the name of the program. -/
def parse (arguments : List String) : Except ArgumentError Overrides := read arguments {} none

end Arguments

end CallGate
