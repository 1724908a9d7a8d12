import SessionServer.Text.Decimal
import SessionServer.Text.Utf8
import SessionServer.Text.Quoted

/-!
What can go wrong with the database.
-/

namespace SessionServer.Database

inductive Error where
  /-- A table that a statement needs is not there. -/
  | noSuchTable (table : String)
  /-- A table that is to be made is already there. -/
  | tableExists (table : String)
  /-- Another account has the same address. -/
  | emailTaken
  /-- A table has no room for another row. -/
  | full
  /-- The file can be neither opened nor made. -/
  | cannotOpen
  /-- The file is a directory, and nothing can be read from it. -/
  | cannotRead
  /-- The file whose permissions the new one is to have is not there. -/
  | noSuchModel
  /-- The file holds something else. -/
  | notADatabase
  /-- The database may only be read. -/
  | readOnly
  /-- The file's name asks for a way of opening that is not known. -/
  | noSuchMode (kind name : String)
  /-- The file's name asks for more than the location allows. -/
  | modeNotAllowed (kind name : String)
  /-- The file's name places the file on another host. -/
  | unknownHost (name : String)
  /-- The location asks for a file system that is not known. -/
  | noSuchFileSystem (name : String)
  /-- The connections were closed. -/
  | closed
  /-- The file's name has a zero character. -/
  | zeroInName
  /-- The file's name is not UTF-8. -/
  | nameNotText (malformed : Utf8.Malformed)
  /-- The location has a parameter that is not known. -/
  | unknownParameter (name : String)
  /-- A parameter of the location has a value that is not known. -/
  | unknownValue (value parameter : String)
  deriving DecidableEq, Repr

inductive Error.Origin where
  | engine
  | pool
  | configuration
  | transport
  deriving DecidableEq, Repr

def Error.origin : Error → Error.Origin
  | .noSuchTable _ => .engine
  | .tableExists _ => .engine
  | .emailTaken => .engine
  | .full => .engine
  | .cannotOpen => .engine
  | .cannotRead => .engine
  | .noSuchModel => .engine
  | .notADatabase => .engine
  | .readOnly => .engine
  | .noSuchMode _ _ => .engine
  | .modeNotAllowed _ _ => .engine
  | .unknownHost _ => .engine
  | .noSuchFileSystem _ => .engine
  | .closed => .pool
  | .zeroInName => .transport
  | .nameNotText _ => .configuration
  | .unknownParameter _ => .configuration
  | .unknownValue _ _ => .configuration

def describeMalformed (malformed : Utf8.Malformed) : String :=
  let index := String.ofList (Text.Decimal.ofNat malformed.index)
  match malformed.length? with
  | some length =>
      "invalid utf-8 sequence of " ++ String.ofList (Text.Decimal.ofNat length) ++
        " bytes from index " ++ index
  | none => "incomplete utf-8 byte sequence from index " ++ index

def describeEngine (code : Nat) (text : String) : String :=
  "error returned from database: (code: " ++ String.ofList (Text.Decimal.ofNat code) ++ ") " ++ text

def describeConfiguration (text : String) : String := "error with configuration: " ++ text

def Error.describe : Error → String
  | .noSuchTable table => describeEngine 1 ("no such table: " ++ table)
  | .tableExists table => describeEngine 1 ("table " ++ table ++ " already exists")
  | .emailTaken => describeEngine 2067 "UNIQUE constraint failed: users.email"
  | .full => describeEngine 13 "database or disk is full"
  | .cannotOpen => describeEngine 14 "unable to open database file"
  | .cannotRead => describeEngine 266 "disk I/O error"
  | .noSuchModel => describeEngine 1802 "disk I/O error"
  | .notADatabase => describeEngine 26 "file is not a database"
  | .readOnly => describeEngine 8 "attempt to write a readonly database"
  | .noSuchMode kind name => describeEngine 1 ("no such " ++ kind ++ " mode: " ++ name)
  | .modeNotAllowed kind name => describeEngine 3 (kind ++ " mode not allowed: " ++ name)
  | .unknownHost name => describeEngine 1 ("invalid uri authority: " ++ name)
  | .noSuchFileSystem name => describeEngine 1 ("no such vfs: " ++ name)
  | .closed => "attempted to acquire a connection on a closed pool"
  | .zeroInName =>
      "error communicating with database: filename passed to SQLite must not contain nul bytes"
  | .nameNotText malformed => describeConfiguration (describeMalformed malformed)
  | .unknownParameter name =>
      describeConfiguration
        ("unknown query parameter `" ++ name ++ "` while parsing connection URL")
  | .unknownValue value parameter =>
      describeConfiguration
        ("unknown value " ++ Text.Quoted.encode value ++ " for `" ++ parameter ++ "`")

end SessionServer.Database
