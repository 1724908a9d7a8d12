import SessionServer.Database.FileName
import SessionServer.Database.Files

/-!
How a file is opened as a database. The location says what may be done with the file, and the
parameters of the file's name may ask for less, or for a database in memory.
-/

namespace SessionServer.Database

/-- What may be done with a file, from the least to the most. -/
inductive Access where
  | readOnly
  | existing
  | create
  deriving DecidableEq, Repr

/-- The place of an access in their order. -/
def Access.rank : Access → Nat
  | .readOnly => 0
  | .existing => 1
  | .create => 2

structure Opening where
  access : Access
  inMemory : Bool
  shared : Bool
  fileSystem : Bytes
  deriving DecidableEq, Repr

namespace Opening

/-- The file systems that the engine knows. The first four keep files in directories and differ in their
locks; the last one keeps them in memory. -/
def directorySystems : List Bytes :=
  ["unix", "unix-none", "unix-dotfile", "unix-excl"].map Utf8.ofString

def memorySystem : Bytes := Utf8.ofString "memdb"

def ofLocation (location : Location) : Opening :=
  { access := if location.readOnly then .readOnly else if location.create then .create else .existing
    inMemory := location.inMemory
    shared := location.shared
    fileSystem := Utf8.ofString "unix" }

/-- The opening with another access, which must not be wider than the one before. Of a database in
memory everything may be asked. -/
def narrow (opening : Opening) (access : Access) (name : String) : Except Error Opening :=
  if opening.inMemory ∨ access.rank ≤ opening.access.rank then
    .ok { opening with access := access, inMemory := false }
  else .error (.modeNotAllowed "access" name)

/-- Takes a parameter of the file's name into account. Those that say nothing of the way of opening are
passed over. -/
def apply (opening : Opening) (parameter : Bytes × Bytes) : Except Error Opening :=
  let name := FileName.text parameter.1
  let value := FileName.text parameter.2
  if name = "vfs" then .ok { opening with fileSystem := parameter.2 }
  else if name = "cache" then
    if value = "shared" then .ok { opening with shared := true }
    else if value = "private" then .ok { opening with shared := false }
    else .error (.noSuchMode "cache" value)
  else if name = "mode" then
    if value = "ro" then opening.narrow .readOnly value
    else if value = "rw" then opening.narrow .existing value
    else if value = "rwc" then opening.narrow .create value
    else if value = "memory" then .ok { opening with access := .create, inMemory := true }
    else .error (.noSuchMode "access" value)
  else .ok opening

def ofFileName (location : Location) (fileName : FileName) : Except Error Opening :=
  match fileName.parameters.foldlM apply (ofLocation location) with
  | .error error => .error error
  | .ok opening =>
      if opening.fileSystem ∈ directorySystems ∨ opening.fileSystem = memorySystem then .ok opening
      else .error (.noSuchFileSystem (FileName.text opening.fileSystem))

end Opening

/-- Where an opened database is kept. -/
inductive Storage where
  | file (path : Path)
  /-- In memory, where all connections find the same tables. -/
  | common
  /-- In memory or in a nameless file, of which each connection has its own. -/
  | separate
  deriving DecidableEq, Repr

/-- What opening a file leads to: where the database is kept, its tables, the fault that writing to it
ends with, if it cannot be written to, and the fault that a second connection to it ends with, if there can
be only one. -/
structure Opened where
  storage : Storage
  tables : Tables := Tables.empty
  writeFault : Option Error := none
  secondFault : Option Error := none
  deriving DecidableEq, Repr

namespace Opened

/-- The fault of writing to a database that may only be read. -/
def readOnlyFault (isReadOnly : Bool) : Option Error := if isReadOnly then some .readOnly else none

/-- A database in memory. If each connection has tables of its own, the table of versions that the first
connection makes is not there for the second. -/
def inMemory (shared isReadOnly : Bool) : Opened :=
  { storage := if shared then .common else .separate
    writeFault := readOnlyFault isReadOnly
    secondFault := if shared then none else some (.noSuchTable Tables.versionsName) }

/-- The tables in the file at a path, which is made if it may be. A file of one octet counts as empty. -/
def tablesAt (files : Files) (path : Path) (access : Access) : Except Error Tables :=
  match files.find? path with
  | some (.database tables) => .ok tables
  | some (.plain octets) => if octets.length ≤ 1 then .ok Tables.empty else .error .notADatabase
  | some .directory => .error (if access = .readOnly then .cannotRead else .cannotOpen)
  | none =>
      match files.find? path.dropLast with
      | some .directory => if access = .create then .ok Tables.empty else .error .cannotOpen
      | _ => .error .cannotOpen

/-- The fault of a second connection to a file that the first one may have made. Names that lead through
the file as if it were a directory lead nowhere once it is there. -/
def reconnectFault (files : Files) (directory : Path) (text : String) (path : Path) : Option Error :=
  if (files.put path (.database Tables.empty)).resolve? directory text = some path then none
  else some .cannotOpen

/-- Opens a file in a directory. Another file may be named as the model for its permissions. -/
def ofFile (files : Files) (directory : Path) (fileName : FileName) (access : Access)
    (isReadOnly : Bool) : Except Error Opened :=
  match files.resolve? directory (FileName.text fileName.octets) with
  | none => .error .cannotOpen
  | some path =>
      let found := match fileName.value? "modeof" with
        | some model => (files.walk directory (FileName.text model)).isOk
        | none => true
      if !found then .error .noSuchModel
      else
        match tablesAt files path access with
        | .ok tables =>
            let journal := if path.allowsJournal then none else some Error.cannotOpen
            .ok { storage := .file path, tables := tables
                  writeFault := (readOnlyFault isReadOnly).or journal
                  secondFault := reconnectFault files directory (FileName.text fileName.octets) path }
        | .error error => .error error

/-- How many octets the name of a file in memory may have. -/
def maxMemoryNameLength : Nat := 1016

/-- Opens a file by its name. A file in memory is common to all connections if its name begins with a
slash. -/
def ofFileName (files : Files) (directory : Path) (fileName : FileName) (opening : Opening) :
    Except Error Opened :=
  let mayOnlyRead := opening.access = .readOnly
  let isFixed := match fileName.value? "immutable" with
    | some value => FileName.isTrue value
    | none => false
  if opening.inMemory ∨ fileName.octets = Utf8.encode Location.memoryName then
    .ok (inMemory (opening.shared && fileName.isIdentifier && fileName.octets ≠ []) mayOnlyRead)
  else if fileName.octets = [] then .ok (inMemory false mayOnlyRead)
  else if opening.fileSystem = Opening.memorySystem then
    if maxMemoryNameLength < fileName.octets.length then .error .cannotOpen
    else
      let rooted := fileName.octets.head? = some 0x2F ∧ 1 < fileName.octets.length
      .ok (inMemory (opening.shared || rooted) (mayOnlyRead || isFixed))
  else ofFile files directory fileName opening.access (mayOnlyRead || isFixed)

/-- Opens the database at a location, seen from a directory. -/
def ofLocation (files : Files) (directory : Path) (location : Location) : Except Error Opened :=
  match FileName.ofLocation location with
  | .error error => .error error
  | .ok fileName =>
      match Opening.ofFileName location fileName with
      | .error error => .error error
      | .ok opening => ofFileName files directory fileName opening

end Opened

end SessionServer.Database
