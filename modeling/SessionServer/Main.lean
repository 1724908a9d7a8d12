import SessionServer.Server.Startup
import SessionServer.Settings.Help

/-!
The command: it reads the arguments, the environment and the secret's file, starts the server on an
empty database, writes the log, and ends with the code of the start.
-/

namespace SessionServer.Main

def secretVariable : String := "JWT_SECRET"

/-- The variables that stand in for options, as far as they are set. -/
def environment : IO Settings.Environment :=
  (Settings.descriptions.filterMap (·.fallback)).filterMapM fun name => do
    return (← IO.getEnv name).map fun value => (name, value)

/-- What stands at a path. Whatever cannot be read, though it is there, counts as a directory. -/
def fileAt (path : String) : IO Settings.Secret.File := do
  try
    return .content (← IO.FS.readBinFile path).toList
  catch
    | .noFileOrDirectory .. => return .missing
    | .inappropriateType .. => return .beyondFile
    | _ => return .directory

def surroundings (environment : Settings.Environment)
    (parsed : Except Settings.Rejection Settings.Arguments) : IO Server.Surroundings := do
  let path? := match parsed with
    | .ok arguments => arguments.secretFile
    | .error _ => none
  let file ← match path? with
    | some path => fileAt path
    | none => pure .missing
  return {
    environment := environment
    secret := (← IO.getEnv secretVariable).map Utf8.ofString
    secretFile := fun _ => file
    files := {}
    directory := []
    address := fun port => "0.0.0.0:" ++ String.ofList (Text.Decimal.ofNat port)
    now := 0 }

def run (arguments : List String) : IO UInt32 := do
  let environment ← environment
  let parsed := Settings.Arguments.parse arguments environment
  let (ending, accepted, log) := Server.startup (← surroundings environment parsed) arguments
  let format := match accepted with
    | some arguments => arguments.logFormat
    | none => .pretty
  match parsed with
  | .error (.help long) => IO.print (Settings.Help.text environment long)
  | .error _ => IO.eprintln "The arguments are not accepted. For more information, try '--help'."
  | .ok _ => log.forM fun entry => IO.println (entry.line format)
  return UInt32.ofNat (ending.code.getD 0)

end SessionServer.Main

def main (arguments : List String) : IO UInt32 := SessionServer.Main.run arguments
