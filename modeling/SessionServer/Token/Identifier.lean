import SessionServer.Text.Hex

/-!
Token identifiers: 16 random octets, marked as a random identifier of version four and written in
five groups of hexadecimal digits.
-/

namespace SessionServer.Token.Identifier

/-- `octet` with its upper bits replaced: the version, four bits wide. -/
def withVersion (octet : UInt8) : UInt8 := (octet &&& 0x0F) ||| 0x40

/-- `octet` with its upper bits replaced: the variant, two bits wide. -/
def withVariant (octet : UInt8) : UInt8 := (octet &&& 0x3F) ||| 0x80

/-- The identifier that 16 random octets make. -/
def ofOctets (random : Bytes) : String :=
  let octets := (random ++ List.replicate 16 0).take 16
  let marked := octets.zipIdx.map fun (octet, index) =>
    if index = 6 then withVersion octet else if index = 8 then withVariant octet else octet
  let digits := Text.Hex.encode marked
  let group (start length : Nat) := (digits.drop start).take length
  String.ofList
    (group 0 8 ++ '-' :: group 8 4 ++ '-' :: group 12 4 ++ '-' :: group 16 4 ++ '-' :: group 20 12)

def isIdentifier (text : String) : Bool :=
  let chars := text.toList
  chars.length == 36 && chars.zipIdx.all fun (c, index) =>
    if index = 8 ∨ index = 13 ∨ index = 18 ∨ index = 23 then c = '-'
    else if index = 14 then c = '4'
    else if index = 19 then c = '8' ∨ c = '9' ∨ c = 'a' ∨ c = 'b'
    else ('0' ≤ c ∧ c ≤ '9') ∨ ('a' ≤ c ∧ c ≤ 'f')

end SessionServer.Token.Identifier
