import SessionServer.Text.Utf8
import SessionServer.Text.Blank

/-!
Header fields of a request. A field's value is octets without control characters; only a value that
is printable ASCII can be read as text.
-/

namespace SessionServer.Http

/-- Whether an octet may stand in a field's value: no control character but the tab. -/
def isFieldOctet (b : UInt8) : Bool := b = 0x09 || (0x20 ≤ b && b ≠ 0x7F)

structure FieldValue where
  octets : Bytes
  admitted : octets.all isFieldOctet = true := by decide
  deriving DecidableEq

/-- The value with these octets, if they may all stand in one. -/
def FieldValue.ofBytes? (octets : Bytes) : Option FieldValue :=
  if admitted : octets.all isFieldOctet = true then some { octets := octets, admitted := admitted }
  else none

def isTextOctet (b : UInt8) : Bool := b = 0x09 || (0x20 ≤ b && b < 0x7F)

/-- The value as text, if it is printable ASCII. -/
def FieldValue.text? (value : FieldValue) : Option (List Char) :=
  if value.octets.all isTextOctet then some (value.octets.map fun b => Char.ofNat b.toNat) else none

/-- Header fields in the order they were sent, with names in lower case. -/
structure Headers where
  fields : List (String × FieldValue) := []
  deriving DecidableEq

namespace Headers

def empty : Headers := {}

/-- The fields with one more at the end. Names are compared without regard to ASCII case. -/
def append (headers : Headers) (name : String) (value : FieldValue) : Headers :=
  { fields := headers.fields ++ [(String.ofList (Text.lowerAscii name.toList), value)] }

/-- The values of all fields with a name, given in lower case. -/
def all (headers : Headers) (name : String) : List FieldValue :=
  headers.fields.filterMap fun field => if field.1 = name then some field.2 else none

/-- The value of the first field with a name, given in lower case. -/
def first? (headers : Headers) (name : String) : Option FieldValue := (headers.all name).head?

end Headers

end SessionServer.Http
