import SessionServer.Database.Schema
import SessionServer.Text.Blank

/-!
The files that databases are kept in. A path is the list of names on the way from the root. Names can be
followed in two ways: as the system does, which asks for every directory on the way, and as the database
engine does, which resolves a dot, two dots and empty names by their text.
-/

namespace SessionServer.Database

/-- The names on the way from the root. -/
abbrev Path := List String

namespace Path

def enter (path : Path) (name : String) : Path :=
  if name = "" ∨ name = "." then path else if name = ".." then path.dropLast else path ++ [name]

/-- Whether a name leads further, and not to the same or to the upper directory. -/
def isProper (name : String) : Bool := name ≠ "" && name ≠ "." && name ≠ ".."

def names (text : String) : List String := (Text.splitAll '/' text.toList).map String.ofList

/-- Where the names in a text start, seen from a directory. -/
def start (directory : Path) (text : String) : Path :=
  if text.toList.head? = some '/' then [] else directory

/-- The path that a text names, seen from a directory. -/
def ofText (directory : Path) (text : String) : Path := (names text).foldl enter (start directory text)

/-- How many octets a name may have. -/
def maxNameLength : Nat := 255

/-- How many octets the database engine adds to a file's path for the files beside it. -/
def suffixLength : Nat := 8

/-- How many octets a path may have for the database engine. -/
def maxLength : Nat := 512

/-- How many octets a path has as a text. -/
def length (path : Path) : Nat := path.foldl (fun total name => total + name.utf8ByteSize + 1) 0

def isTooLong (path : Path) : Bool := maxLength < Path.length path + suffixLength

/-- Whether the journal can be named, which a database needs while it is written to. -/
def allowsJournal (path : Path) : Bool :=
  (path.getLast?.getD "").utf8ByteSize + suffixLength ≤ maxNameLength

end Path

/-- What stands at a path. -/
inductive Entry where
  | directory
  /-- A file that was not written by the engine. One of at most one octet can become a database. -/
  | plain (octets : Bytes)
  | database (tables : Tables)
  deriving DecidableEq, Repr

/-- All entries by path. The root is always a directory. -/
structure Files where
  entries : List (Path × Entry) := []
  deriving DecidableEq, Repr

namespace Files

def find? (files : Files) (path : Path) : Option Entry :=
  if path = [] then some .directory else files.entries.lookup path

/-- The files with an entry at a path, in the place of one that was there before. -/
def put (files : Files) (path : Path) (entry : Entry) : Files :=
  { entries := (files.entries.filter fun other => other.1 ≠ path) ++ [(path, entry)] }

def names (files : Files) (directory : Path) : List String :=
  (files.entries.filter fun entry => entry.1.dropLast = directory ∧ entry.1 ≠ []).filterMap
    fun entry => entry.1.getLast?

inductive WalkFault where
  | missing
  /-- A name follows a file. -/
  | notDirectory
  | nameTooLong
  deriving DecidableEq, Repr

def walkFrom (files : Files) (path : Path) : List String → Except WalkFault Path
  | [] => .ok path
  | name :: rest =>
      match files.find? path with
      | none => .error .missing
      | some .directory =>
          if Path.isProper name && Path.maxNameLength < name.utf8ByteSize then .error .nameTooLong
          else
            let next := path.enter name
            if (files.find? next).isSome then walkFrom files next rest else .error .missing
      | some _ => .error .notDirectory

/-- How many octets a text that names a path must stay below. -/
def maxTextLength : Nat := 4096

/-- Follows a path to an entry, seen from a directory. -/
def walk (files : Files) (directory : Path) (text : String) : Except WalkFault Path :=
  if text = "" then .error .missing
  else if maxTextLength ≤ text.utf8ByteSize then .error .nameTooLong
  else walkFrom files (Path.start directory text) (Path.names text)

/-- Follows names from a path on as the database engine does: by their text alone, but no name may
follow a file, and neither a name nor a path may get too long. -/
def resolveFrom? (files : Files) (path : Path) : List String → Option Path
  | [] => some path
  | name :: rest =>
      let next := path.enter name
      if !Path.isProper name then resolveFrom? files next rest
      else if Path.maxLength ≤ Path.length next then none
      else
        match files.find? path with
        | none => resolveFrom? files next rest
        | some .directory =>
            if Path.maxNameLength < name.utf8ByteSize then none else resolveFrom? files next rest
        | some _ => none

/-- The path of the database that a text names, seen from a directory. -/
def resolve? (files : Files) (directory : Path) (text : String) : Option Path :=
  match resolveFrom? files (Path.start directory text) (Path.names text) with
  | some path => if path = [] ∨ path.isTooLong then none else some path
  | none => none

end Files

end SessionServer.Database
