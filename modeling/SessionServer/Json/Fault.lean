import SessionServer.Text.Utf8
import SessionServer.Text.Quoted
import SessionServer.Text.Decimal

/-!
Why a JSON text was refused, and where. A fault keeps the octets that were still unread when it was
found; its line and column follow from the source.
-/

namespace SessionServer.Json

/-- What stood where another kind of value was expected. -/
inductive Found where
  | null
  | boolean (value : Bool)
  | integer (value : Int)
  | double (numeral : String)
  | text (content : String)
  | list
  | object
  deriving DecidableEq, Repr

def Found.describe : Found → String
  | .null => "null"
  | .boolean true => "boolean `true`"
  | .boolean false => "boolean `false`"
  | .integer value => "integer `" ++ String.ofList (Text.Decimal.ofInt value) ++ "`"
  | .double numeral => "floating point `" ++ numeral ++ "`"
  | .text content => "string " ++ Text.Quoted.encode content
  | .list => "sequence"
  | .object => "map"

inductive Cause where
  | unclosedList
  | unclosedObject
  | unclosedText
  | missingValue
  | expectedColon
  | expectedListEnd
  | expectedObjectEnd
  | expectedWord
  | expectedValue
  | invalidEscape
  | invalidNumber
  | numberOutOfRange
  | invalidText
  | controlCharacter
  | keyNotText
  | unpairedSurrogate
  | unfinishedPair
  | trailingComma
  | trailingCharacters
  | tooDeep
  /-- A field that must be present is not. -/
  | missingField (name : String)
  /-- A field is given twice. -/
  | duplicateField (name : String)
  /-- A list of fields in order ended early. -/
  | wrongLength (length : Nat) (expected : String)
  /-- A value is of another kind than its place asks for. -/
  | wrongKind (found : Found) (expected : String)
  deriving DecidableEq, Repr

def Cause.describe : Cause → String
  | .unclosedList => "EOF while parsing a list"
  | .unclosedObject => "EOF while parsing an object"
  | .unclosedText => "EOF while parsing a string"
  | .missingValue => "EOF while parsing a value"
  | .expectedColon => "expected `:`"
  | .expectedListEnd => "expected `,` or `]`"
  | .expectedObjectEnd => "expected `,` or `\x7d`"
  | .expectedWord => "expected ident"
  | .expectedValue => "expected value"
  | .invalidEscape => "invalid escape"
  | .invalidNumber => "invalid number"
  | .numberOutOfRange => "number out of range"
  | .invalidText => "invalid unicode code point"
  | .controlCharacter => "control character (\\u0000-\\u001F) found while parsing a string"
  | .keyNotText => "key must be a string"
  | .unpairedSurrogate => "lone leading surrogate in hex escape"
  | .unfinishedPair => "unexpected end of hex escape"
  | .trailingComma => "trailing comma"
  | .trailingCharacters => "trailing characters"
  | .tooDeep => "recursion limit exceeded"
  | .missingField name => "missing field `" ++ name ++ "`"
  | .duplicateField name => "duplicate field `" ++ name ++ "`"
  | .wrongLength length expected =>
      "invalid length " ++ String.ofList (Text.Decimal.ofNat length) ++ ", expected " ++ expected
  | .wrongKind found expected => "invalid type: " ++ found.describe ++ ", expected " ++ expected

/-- Whether the text is JSON as far as it was read, but not of the shape that was asked for. -/
def Cause.isShape : Cause → Bool
  | .missingField _ => true
  | .duplicateField _ => true
  | .wrongLength _ _ => true
  | .wrongKind _ _ => true
  | _ => false

/-- Which part of the outermost value a fault was found in. -/
inductive Place where
  | whole
  | member (key : String)
  | element (index : Nat)
  deriving DecidableEq, Repr

def Place.describe : Place → String
  | .whole => ""
  | .member key => key ++ ": "
  | .element index => "[" ++ String.ofList (Text.Decimal.ofNat index) ++ "]: "

/-- A refusal: its cause, the octets that were unread, whether it speaks of the next of them rather
than of the last one read, how many octets before that one it speaks of, and the part of the text it
was found in. -/
structure Fault where
  cause : Cause
  unread : Bytes
  ahead : Bool := false
  behind : Nat := 0
  place : Place := .whole
  deriving DecidableEq, Repr

/-- The line, from one, and the column reached after the first octets of a text. -/
def lineColumn : Bytes → (count line column : Nat) → Nat × Nat
  | b :: rest, count + 1, line, column =>
      if b = 0x0A then lineColumn rest count (line + 1) 0 else lineColumn rest count line (column + 1)
  | _, _, line, column => (line, column)

/-- How many octets of `source` the fault's position covers. -/
def Fault.offset (source : Bytes) (fault : Fault) : Nat :=
  let read := source.length - fault.unread.length
  if fault.ahead then min source.length (read + 1) else read - fault.behind

/-- The refusal of `source` in words, with its position. -/
def Fault.describe (source : Bytes) (fault : Fault) : String :=
  let position := lineColumn source (fault.offset source) 1 0
  fault.place.describe ++ fault.cause.describe ++
    " at line " ++ String.ofList (Text.Decimal.ofNat position.1) ++
    " column " ++ String.ofList (Text.Decimal.ofNat position.2)

/-- Reading one thing off the front of a text: what was read and what remains. -/
abbrev Reader (α : Type) := Bytes → Except Fault (α × Bytes)

/-- A refusal that speaks of the octet read last. -/
def refuse {α : Type} (cause : Cause) (unread : Bytes) : Except Fault α :=
  .error { cause := cause, unread := unread }

/-- A refusal that speaks of an octet before the one read last. -/
def refuseBehind {α : Type} (cause : Cause) (behind : Nat) (unread : Bytes) : Except Fault α :=
  .error { cause := cause, unread := unread, behind := behind }

/-- A refusal that speaks of the next octet. -/
def refuseNext {α : Type} (cause : Cause) (unread : Bytes) : Except Fault α :=
  .error { cause := cause, unread := unread, ahead := true }

end SessionServer.Json
