import SessionServer.Database.Error
import SessionServer.Text.Percent

/-!
Where a database is. The path that an operator gives becomes part of a location text, in which a
question mark starts parameters and a percent sign writes an octet; so a path with either names
another file than the one it seems to name.
-/

namespace SessionServer.Database

/-- A location as it is understood: a file's name, and how the file is to be opened. -/
structure Location where
  name : String
  readOnly : Bool := false
  /-- Whether the file is made if it is not there. -/
  create : Bool := false
  inMemory : Bool := false
  /-- Whether all connections see the same tables of a database in memory. -/
  shared : Bool := false
  /-- Whether nobody changes the file. -/
  immutable : Bool := false
  fileSystem : Option String := none
  deriving DecidableEq, Repr

namespace Location

def apply (location : Location) (name value : String) : Except Error Location :=
  if name = "mode" then
    if value = "ro" then .ok { location with readOnly := true }
    else if value = "rw" then .ok location
    else if value = "rwc" then .ok { location with create := true }
    else if value = "memory" then .ok { location with inMemory := true, shared := true }
    else .error (.unknownValue value name)
  else if name = "cache" then
    if value = "private" then .ok { location with shared := false }
    else if value = "shared" then .ok { location with shared := true }
    else .error (.unknownValue value name)
  else if name = "immutable" then
    if value = "true" ∨ value = "1" then .ok { location with immutable := true }
    else if value = "false" ∨ value = "0" then .ok { location with immutable := false }
    else .error (.unknownValue value name)
  else if name = "vfs" then .ok { location with fileSystem := some value }
  else .error (.unknownParameter name)

/-- Takes parameters into account in order; the first bad one counts. -/
def applyAll : Location → List (String × String) → Except Error Location
  | location, [] => .ok location
  | location, (name, value) :: rest =>
      match location.apply name value with
      | .ok location => location.applyAll rest
      | .error error => .error error

/-- `chars` without `start` at the front, as often as it stands there. `fuel` is the length. -/
def stripAll (start : List Char) : (fuel : Nat) → List Char → List Char
  | 0, chars => chars
  | fuel + 1, chars =>
      if start.isPrefixOf chars then stripAll start fuel (chars.drop start.length) else chars

def scheme : List Char := "sqlite:".toList

/-- The name that asks for a database in memory. -/
def memoryName : List Char := ":memory:".toList

/-- A database in memory. Its name tells the engine that its connections belong together. -/
def memory : Location := { name := "file:memory", inMemory := true, shared := true }

/-- The text of the location for an operator's path. -/
def text (path : String) : List Char :=
  if path = ":memory:" then scheme ++ memoryName
  else scheme ++ path.toList ++ "?mode=rwc".toList

/-- The location with this name, before any parameters. -/
def named (name : List Char) : Except Error Location :=
  if name = memoryName then .ok memory
  else
    let octets := Text.Percent.decode (Utf8.encode name)
    match Utf8.toString? octets with
    | some decoded => .ok { name := decoded }
    | none =>
        match Utf8.malformed? octets with
        | some malformed => .error (.nameNotText malformed)
        | none => .error .cannotOpen

def parse (location : List Char) : Except Error Location :=
  let plain := stripAll (scheme ++ "//".toList) location.length location
  let plain := stripAll scheme plain.length plain
  match Text.splitOnce '?' plain with
  | none => named plain
  | some (name, query) =>
      match named name with
      | .ok location => location.applyAll (Text.Percent.parameters query)
      | .error error => .error error

def ofPath (path : String) : Except Error Location := parse (text path)

end Location

end SessionServer.Database
