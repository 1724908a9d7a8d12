import SessionServer.Server.State
import SessionServer.Settings.CommandLine
import SessionServer.Settings.Secret

/-!
Starting the server: the command line, the secret and the database in this order. Each step that fails
ends the program, after an entry in the log that says why.
-/

namespace SessionServer.Server

inductive Level where
  | info
  | warn
  | error
  deriving DecidableEq, Repr

structure LogEntry where
  level : Level
  message : String
  fields : List (String × Json.Document) := []

def Level.name : Level → String
  | .info => "INFO"
  | .warn => "WARN"
  | .error => "ERROR"

namespace LogEntry

/-- An entry as a document: its level, and its message among its fields. -/
def document (entry : LogEntry) : Json.Document :=
  .object
    [("level", .text entry.level.name),
      ("fields", .object (("message", .text entry.message) :: entry.fields))]

def line (entry : LogEntry) : Settings.LogFormat → String
  | .json => entry.document.render
  | .pretty | .compact =>
      let fields := entry.fields.map fun (name, value) => " " ++ name ++ "=" ++ value.render
      entry.level.name ++ " " ++ entry.message ++ String.join fields

def ofSecret : Settings.Secret.Failure → LogEntry
  | .required =>
      { level := .error
        message :=
          "JWT secret is required. Set JWT_SECRET environment variable (recommended) or use " ++
            "--jwt-secret-file" }
  | .tooShort =>
      { level := .error
        message := "JWT secret is shorter than 32 characters. Use a longer secret" }
  | .unreadable path fault =>
      { level := .error, message := "Failed to read JWT secret file"
        fields := [("path", .text path), ("error", .text fault.describe)] }

def ofDatabase (path : String) (error : Database.Error) : LogEntry :=
  { level := .error, message := "Failed to open database"
    fields := [("path", .text path), ("error", .text error.describe)] }

def opened (path : String) : LogEntry :=
  { level := .info, message := "Database opened", fields := [("path", .text path)] }

def inMemory : LogEntry :=
  { level := .warn
    message := "Using in-memory blacklist: logouts are not shared between processes" }

def backingName : Revocation.Backing → String
  | .memory => "Memory"
  | .database => "Database"

/-- What a purge found: nothing is said of a purge that found nothing. -/
def ofPurge : Except Session.StoreFault Nat → List LogEntry
  | .ok 0 => []
  | .ok count =>
      [{ level := .info
         message :=
          "Purged " ++ String.ofList (Text.Decimal.ofNat count) ++ " expired revoked tokens" }]
  | .error fault =>
      [{ level := .error, message := "Failed to purge expired revoked tokens"
         fields := [("error", .text fault.describe)] }]

def listening (address : String) (arguments : Settings.Arguments) : LogEntry :=
  { level := .info, message := "Listening"
    fields := [("address", .text address), ("session_ttl", .natural arguments.sessionLifetime),
      ("blacklist", .text (backingName arguments.backing))] }

end LogEntry

structure Surroundings where
  /-- The variables that stand in for options. -/
  environment : Settings.Environment
  /-- The variable that holds the secret. -/
  secret : Option Bytes
  /-- What stands at the path of a secret file. -/
  secretFile : String → Settings.Secret.File
  files : Database.Files
  /-- The directory that relative paths start from. -/
  directory : Database.Path
  /-- The address that a port is bound to. -/
  address : Nat → String
  now : Nat

/-- The octets that every file written by the database engine begins with. -/
def databaseStart : Bytes := Utf8.ofString "SQLite format 3\x00"

/-- What stands at the path of a secret file, seen from a directory. Of a database only its first octets
are known. -/
def secretFileIn (files : Database.Files) (directory : Database.Path) (path : String) :
    Settings.Secret.File :=
  match files.walk directory path with
  | .error .missing => .missing
  | .error .notDirectory => .beyondFile
  | .error .nameTooLong => .nameTooLong
  | .ok path =>
      match files.find? path with
      | some .directory => .directory
      | some (.plain octets) => .content octets
      | some (.database _) => .content databaseStart
      | none => .missing

/-- How a start ends. -/
inductive Ending where
  /-- The command line asks for help. -/
  | help
  /-- The command line is not accepted. -/
  | rejected (rejection : Settings.Rejection)
  /-- A step failed. -/
  | failed
  | listening (state : State)

/-- The code that the program ends with, if it ends. -/
def Ending.code : Ending → Option Nat
  | .help => some 0
  | .rejected _ => some 2
  | .failed => some 1
  | .listening _ => none

structure Config where
  policy : Endpoint.Policy
  backing : Revocation.Backing
  /-- After how many seconds ended revocations are purged again. -/
  purgeInterval : Nat
  /-- After how many seconds an open socket is checked again, if not after the usual time. -/
  pingInterval : Option Nat
  deriving DecidableEq, Repr

/-- The configuration that arguments and a secret make. -/
def Config.ofArguments (arguments : Settings.Arguments) (secret : String) : Config :=
  { policy :=
      { secret := Utf8.ofString secret, secureCookies := arguments.secureCookies
        sessionLifetime := arguments.sessionLifetime }
    backing := arguments.backing
    purgeInterval := arguments.purgeInterval
    pingInterval := arguments.pingInterval }

/-- How a start that got past the command line ends, and its log. -/
def launch (surroundings : Surroundings) (arguments : Settings.Arguments) :
    Ending × List LogEntry :=
  let file := arguments.secretFile.map fun path => (path, surroundings.secretFile path)
  match (Settings.Secret.load surroundings.secret file).secret with
  | .error failure => (.failed, [.ofSecret failure])
  | .ok secret =>
      let config := Config.ofArguments arguments secret
      let setup : Setup :=
        { policy := config.policy, backing := config.backing
          directory := surroundings.directory, path := arguments.database }
      match State.start setup surroundings.files with
      | (_, .error error) => (.failed, [.ofDatabase arguments.database error])
      | (_, .ok state) =>
          let warning := match arguments.backing with
            | .memory => [LogEntry.inMemory]
            | .database => []
          let (stores, purged) := state.site.stores.purge surroundings.now
          (.listening (state.withStores stores),
            LogEntry.opened arguments.database ::
              (warning ++ LogEntry.ofPurge purged ++
                [.listening (surroundings.address arguments.port) arguments]))

/-- How a start ends, the arguments if they are accepted, and the log. -/
def startup (surroundings : Surroundings) (arguments : List String) :
    Ending × Option Settings.Arguments × List LogEntry :=
  match Settings.Arguments.parse arguments surroundings.environment with
  | .error (.help _) => (.help, none, [])
  | .error rejection => (.rejected rejection, none, [])
  | .ok arguments =>
      let (ending, log) := launch surroundings arguments
      (ending, some arguments, log)

end SessionServer.Server
