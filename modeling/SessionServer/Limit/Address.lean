import SessionServer.Text.Blank
import SessionServer.Text.Decimal
import SessionServer.Text.Hex

/-!
Network addresses of clients, read off their texts and written as such. An address has several texts, of
which one is written. The port behind an address does not matter here.
-/

namespace SessionServer

namespace Address

/-- So many numbers below a bound. -/
structure Numbers (count bound : Nat) where
  toList : List Nat
  length_eq : toList.length = count := by decide
  lt_bound : ∀ number ∈ toList, number < bound := by decide
  deriving DecidableEq, Repr

def Numbers.ofList? (count bound : Nat) (numbers : List Nat) : Option (Numbers count bound) :=
  if fits : numbers.length = count ∧ ∀ number ∈ numbers, number < bound then
    some { toList := numbers, length_eq := fits.1, lt_bound := fits.2 }
  else none

end Address

/-- An address: four octets, or eight groups of 16 bits. -/
inductive Address where
  | v4 (octets : Address.Numbers 4 0x100)
  | v6 (groups : Address.Numbers 8 0x10000)
  deriving DecidableEq, Repr

namespace Address

/-- Four octets in decimal with points between them. -/
def octets? (chars : List Char) : Option (Numbers 4 0x100) := do
  let octets ← (Text.splitAll '.' chars).mapM Text.Decimal.nat?
  Numbers.ofList? 4 0x100 octets

/-- One to four hexadecimal digits. -/
def group? (chars : List Char) : Option Nat := do
  let digits ← chars.mapM Text.Hex.value?
  if 1 ≤ digits.length ∧ digits.length ≤ 4 then
    some (digits.foldl (fun value digit => 16 * value + digit) 0)
  else none

/-- The groups that pairs of octets make. -/
def paired : List Nat → List Nat
  | high :: low :: rest => (0x100 * high + low) :: paired rest
  | _ => []

/-- Groups with colons between them. The last two may be written as four octets. -/
def groups? (chars : List Char) : Option (List Nat) :=
  if chars.isEmpty then some []
  else
    let parts := Text.splitAll ':' chars
    match octets? (parts.getLast?.getD []) with
    | some octets => do
        let groups ← parts.dropLast.mapM group?
        return groups ++ paired octets.toList
    | none => parts.mapM group?

/-- The part of `chars` before two colons in a row and the part after them. -/
def splitGap : List Char → Option (List Char × List Char)
  | ':' :: ':' :: rest => some ([], rest)
  | c :: rest => (splitGap rest).map fun parts => (c :: parts.1, parts.2)
  | [] => none

/-- Eight groups; two colons in a row stand for as many zeros as are missing. -/
def v6? (chars : List Char) : Option Address :=
  match splitGap chars with
  | none => do
      let groups ← groups? chars
      (Numbers.ofList? 8 0x10000 groups).map .v6
  | some (before, after) => do
      let front ← groups? before
      let back ← groups? after
      if front.length + back.length < 8 then
        (Numbers.ofList? 8 0x10000
          (front ++ List.replicate (8 - front.length - back.length) 0 ++ back)).map .v6
      else none

/-- The address in front of a port. -/
def ofPeer? (peer : String) : Option Address :=
  match peer.toList with
  | '[' :: rest => do
      let (inside, _) ← Text.splitOnce ']' rest
      let (address, _) := (Text.splitOnce '%' inside).getD (inside, [])
      v6? address
  | chars => do
      let (address, _) ← Text.splitOnce ':' chars
      (octets? address).map .v4

/-- Where the first of the longest runs of zeros begins, and how long it is. -/
def zeros : List Nat → Nat × Nat
  | [] => (0, 0)
  | group :: rest =>
      let here := ((group :: rest).takeWhile (· = 0)).length
      let later := zeros rest
      if later.2 ≤ here then (0, here) else (later.1 + 1, later.2)

def writeOctets (octets : List Nat) : List Char :=
  List.intercalate ['.'] (octets.map Text.Decimal.ofNat)

def writeGroups (groups : List Nat) : List Char :=
  List.intercalate [':'] (groups.map (Nat.toDigits 16))

/-- The groups of an address with two colons for its zeros, if there are several in a row. -/
def writeShortened (groups : List Nat) : List Char :=
  let (start, length) := zeros groups
  if 1 < length then
    writeGroups (groups.take start) ++ ':' :: ':' :: writeGroups (groups.drop (start + length))
  else writeGroups groups

/-- The text of an address. An address of four octets within the eight groups shows its octets. -/
def write : Address → List Char
  | .v4 octets => writeOctets octets.toList
  | .v6 groups =>
      match groups.toList with
      | [0, 0, 0, 0, 0, 0xFFFF, high, low] =>
          "::ffff:".toList ++
            writeOctets [high / 0x100, high % 0x100, low / 0x100, low % 0x100]
      | groups => writeShortened groups

end Address

end SessionServer
