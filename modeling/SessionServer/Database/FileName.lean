import SessionServer.Database.Location

/-!
Files' names as the engine takes them. A name that begins with `file:` is an identifier with parameters
of its own, in which percent signs are decoded once more; all other names are taken as they are. A zero
octet ends the part that it stands in.
-/

namespace SessionServer.Database

structure FileName where
  octets : Bytes
  parameters : List (Bytes × Bytes) := []
  /-- Whether the name was given as an identifier. -/
  isIdentifier : Bool := false
  deriving DecidableEq, Repr

namespace FileName

def text (octets : Bytes) : String := String.ofList (Utf8.decodeLossy octets)

/-- The part of `octets` in front of the first `separator`, and the part behind it. -/
def splitOnce (separator : UInt8) (octets : Bytes) : Bytes × Option Bytes :=
  match octets.dropWhile (· ≠ separator) with
  | [] => (octets, none)
  | _ :: rest => (octets.takeWhile (· ≠ separator), some rest)

/-- The pieces of `octets` between its separators. -/
def splitAll (separator : UInt8) : Bytes → List Bytes
  | [] => [[]]
  | b :: rest =>
      if b = separator then [] :: splitAll separator rest
      else
        match splitAll separator rest with
        | [] => [[b]]
        | piece :: pieces => (b :: piece) :: pieces

/-- What stands in front of the first zero octet. -/
def untilZero (octets : Bytes) : Bytes := octets.takeWhile (· ≠ 0)

def decode (octets : Bytes) : Bytes := untilZero (Text.Percent.decode octets)

/-- A parameter. One without a name is left out. -/
def parameter? (octets : Bytes) : Option (Bytes × Bytes) :=
  let (name, value) := splitOnce 0x3D octets
  match decode name with
  | [] => none
  | name => some (name, decode (value.getD []))

/-- The octets in front of every identifier. -/
def scheme : Bytes := Utf8.ofString "file:"

/-- The only host that a file can be on. -/
def localHost : Bytes := Utf8.ofString "localhost"

/-- The name that an identifier's path and parameters make. What stands behind a number sign is left
out. -/
def ofPath (octets : Bytes) : FileName :=
  let (name, query) := splitOnce 0x3F (octets.takeWhile (· ≠ 0x23))
  { octets := decode name
    parameters := match query with
      | some query => (splitAll 0x26 query).filterMap parameter?
      | none => []
    isIdentifier := true }

/-- The name that an identifier without its scheme makes. Two slashes are followed by a host. -/
def ofIdentifier (octets : Bytes) : Except Error FileName :=
  match octets with
  | 0x2F :: 0x2F :: rest =>
      let host := rest.takeWhile (· ≠ 0x2F)
      if host = [] ∨ host = localHost then .ok (ofPath (rest.dropWhile (· ≠ 0x2F)))
      else .error (.unknownHost (text host))
  | _ => .ok (ofPath octets)

/-- The name with which a location's file is opened. A location with more to say of the file than the
engine's modes of access can say becomes an identifier; blanks in it are written as plus signs. -/
def ofLocation (location : Location) : Except Error FileName :=
  let octets := Utf8.ofString location.name
  let immutable :=
    if location.immutable then [(Utf8.ofString "immutable", Utf8.ofString "true")] else []
  let fileSystem := location.fileSystem.toList.map fun name =>
    (Utf8.ofString "vfs",
      untilZero ((Utf8.ofString name).map fun b => if b = 0x20 then 0x2B else b))
  match immutable ++ fileSystem with
  | [] =>
      if 0 ∈ octets then .error .zeroInName
      else if scheme.isPrefixOf octets then ofIdentifier (octets.drop scheme.length)
      else .ok { octets := octets }
  | parameters => .ok { octets := untilZero octets, parameters := parameters, isIdentifier := true }

def value? (fileName : FileName) (name : String) : Option Bytes :=
  fileName.parameters.lookup (Utf8.ofString name)

def isDigit (b : UInt8) : Bool := 0x30 ≤ b && b ≤ 0x39

/-- The number of the digits at the front, or zero if it is too large for 32 bits with a sign. -/
def leadingNumber (octets : Bytes) : Nat :=
  let digits := octets.takeWhile isDigit
  let value := digits.foldl (fun value b => 10 * value + (b.toNat - 0x30)) 0
  if value < 1 <<< 31 then value else 0

/-- The number of the hexadecimal digits behind a leading `0x`, or zero if it is too large for 32 bits
with a sign. -/
def leadingHex (octets : Bytes) : Nat :=
  let digits := octets.map fun b => Text.Hex.value? (Char.ofNat b.toNat)
  let value := (digits.takeWhile (·.isSome)).foldl (fun value x => 16 * value + x.getD 0) 0
  if value < 1 <<< 31 then value else 0

/-- Whether a value means yes: a number whose last octet is not zero, or one of three words. -/
def isTrue (octets : Bytes) : Bool :=
  match octets with
  | 0x30 :: x :: rest =>
      if x = 0x78 ∨ x = 0x58 then leadingHex rest % 256 ≠ 0 else leadingNumber octets % 256 ≠ 0
  | b :: _ =>
      if isDigit b then leadingNumber octets % 256 ≠ 0
      else
        let word := String.ofList (Text.lowerAscii (Utf8.decodeLossy octets))
        word = "on" || word = "yes" || word = "true"
  | [] => false

end FileName

end SessionServer.Database
