/-! Failures of files, memory and the network. -/

namespace CallGate

/-- The broad classes a failure may belong to when nothing more is known of it. -/
inductive IoError.Class where
  | brokenPipe
  | notFound
  | outOfMemory
  | permissionDenied
  | other
  deriving DecidableEq, Repr

/-- The name of a class of failures. -/
def IoError.Class.message : IoError.Class → String
  | brokenPipe => "broken pipe"
  | notFound => "entity not found"
  | outOfMemory => "out of memory"
  | permissionDenied => "permission denied"
  | other => "other error"

/-- Why a request to the system failed. -/
inductive IoError where
  | noSuchFile
  | outOfMemory
  | noSuchDevice
  | notADirectory
  | isADirectory
  | invalidArgument
  | nameTooLong
  | addressNotAvailable
  | networkUnreachable
  /-- A text file holds bytes that are no text. -/
  | invalidText
  /-- An address has no port. -/
  | invalidAddress
  /-- The port of an address is no number below 65536. -/
  | invalidPort
  /-- A name holds a zero character. -/
  | zeroInName
  /-- A host that stands for no address and is no name to ask for. -/
  | unknownHost
  /-- A host name that nobody can be asked for. -/
  | noNameServer
  /-- A host name that stands for no address at all. -/
  | noAddress
  /-- A failure known only by its class. -/
  | bare (kind : IoError.Class)
  /-- A failure with a description of its own. -/
  | described (kind : IoError.Class) (text : String)
  deriving DecidableEq, Repr

/-- What is reported for a failure. -/
def IoError.message : IoError → String
  | noSuchFile => "No such file or directory (os error 2)"
  | outOfMemory => "Cannot allocate memory (os error 12)"
  | noSuchDevice => "No such device (os error 19)"
  | notADirectory => "Not a directory (os error 20)"
  | isADirectory => "Is a directory (os error 21)"
  | invalidArgument => "Invalid argument (os error 22)"
  | nameTooLong => "File name too long (os error 36)"
  | addressNotAvailable => "Cannot assign requested address (os error 99)"
  | networkUnreachable => "Network is unreachable (os error 101)"
  | invalidText => "stream did not contain valid UTF-8"
  | invalidAddress => "invalid socket address"
  | invalidPort => "invalid port value"
  | zeroInName => "file name contained an unexpected NUL byte"
  | unknownHost => "failed to lookup address information: Name or service not known"
  | noNameServer => "failed to lookup address information: Temporary failure in name resolution"
  | noAddress => "could not resolve to any addresses"
  | bare kind => kind.message
  | described _ text => text

end CallGate
