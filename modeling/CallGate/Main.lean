import CallGate.Arguments
import CallGate.Startup

/-! The command line of the server. -/

namespace CallGate.Main

/-- A failure of the system as the library knows it. -/
def ioError : IO.Error → IoError
  | .noFileOrDirectory _ _ _ => .noSuchFile
  | .inappropriateType _ _ _ => .isADirectory
  | .permissionDenied _ _ text => .described .permissionDenied text
  | other => .described .other (toString other)

/-- Reads one file, or finds out why it cannot be read. -/
def snapshot (path : String) : IO (Except IoError Bytes) := do
  try
    let bytes ← IO.FS.readBinFile path
    return .ok bytes.toList
  catch error =>
    return .error (ioError error)

/-- Reads the settings file, if one is named, and joins it with the other arguments. -/
def plan (given : Overrides) : IO (Except SettingsError LaunchPlan) := do
  let file ← match given.file with
    | some path => snapshot path
    | none => pure (.error .noSuchFile)
  return (Settings.gather (fun _ => file) given).bind Settings.validate

end CallGate.Main

open CallGate in
/-- Checks the command line and the settings. Regions are native code, which cannot be run here. -/
def main (arguments : List String) : IO UInt32 := do
  match Arguments.parse arguments with
  | .error .helpRequested =>
    IO.print Arguments.help
    return 0
  | .error error =>
    IO.eprintln error.message
    return 2
  | .ok given =>
    match ← Main.plan given with
    | .error error => IO.eprintln error.message
    | .ok _ => IO.eprintln s!"Server error: {ServerError.unsupportedPlatform.message}"
    return 1
