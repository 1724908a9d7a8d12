import SessionServer.Password.Argon2
import SessionServer.Text.Base64
import SessionServer.Text.Blank
import SessionServer.Text.Decimal

/-!
The text form of a password hash: fields behind dollar signs for the algorithm, its version, its
parameters, the salt and the hash. What a text leaves out has a default.
-/

namespace SessionServer.Password

structure Costs where
  memory : Nat := 19456
  passes : Nat := 2
  lanes : Nat := 1
  associated : Bytes := []
  deriving DecidableEq, Repr

/-- A password hash with all it takes to compute it again. -/
structure Encoded where
  variant : Argon2.Variant
  version : Nat := 19
  costs : Costs := {}
  salt : Bytes
  output : Bytes
  deriving DecidableEq, Repr

namespace Encoded

def maxParameter : Nat := 4294967295

/-- Whether a text is the name of an algorithm or a parameter. -/
def isName (chars : List Char) : Bool :=
  !chars.isEmpty && chars.length ≤ 32 &&
    chars.all fun c => c.isLower || c.isDigit || c = '-'

/-- Whether a text is the value of a parameter. -/
def isValue (chars : List Char) : Bool :=
  chars.length ≤ 64 && chars.all fun c => c.isAlphanum || "/+.-".toList.contains c

/-- Reads a number without leading zeros. -/
def number? (chars : List Char) : Option Nat :=
  if isValue chars then
    match chars with
    | ['0'] => some 0
    | '0' :: _ => none
    | _ => do
        let n ← Text.Decimal.nat? chars
        if n ≤ maxParameter then some n else none
  else none

/-- Reads octets in base 64, at most `limit` of them. -/
def octets? (limit : Nat) (chars : List Char) : Option Bytes := do
  let octets ← Text.Base64.decode .standard chars
  if octets.length ≤ limit then some octets else none

def variant? (name : List Char) : Option Argon2.Variant :=
  if name = "argon2d".toList then some .dependent
  else if name = "argon2i".toList then some .independent
  else if name = "argon2id".toList then some .hybrid
  else none

/-- Takes a parameter into account. The name of a key is checked and not used. -/
def Costs.set? (costs : Costs) (name value : List Char) : Option Costs :=
  if name = ['m'] then (number? value).map fun n => { costs with memory := n }
  else if name = ['t'] then (number? value).map fun n => { costs with passes := n }
  else if name = ['p'] then (number? value).map fun n => { costs with lanes := n }
  else if name = "keyid".toList then (octets? 8 value).map fun _ => costs
  else if name = "data".toList then (octets? 32 value).map fun data => { costs with associated := data }
  else none

def parameter? (part : List Char) : Option (List Char × List Char) :=
  match Text.splitAll '=' part with
  | [name, value] => if isName name && isValue value then some (name, value) else none
  | _ => none

/-- Reads the field of parameters; a later parameter replaces an earlier one of its name. -/
def costs? (field : List Char) : Option Costs :=
  if field.length ≤ 127 then do
    let parameters ← (Text.splitAll ',' field).mapM parameter?
    parameters.foldlM (fun costs parameter => Costs.set? costs parameter.1 parameter.2) {}
  else none

def Costs.areBounded (costs : Costs) : Bool :=
  8 ≤ costs.memory && 8 * costs.lanes ≤ costs.memory && 1 ≤ costs.passes && 1 ≤ costs.lanes &&
    costs.lanes ≤ 16777215

/-- Takes the version field off, if it is next. -/
def version? (fields : List (List Char)) : Option (Nat × List (List Char)) :=
  match fields with
  | ('v' :: '=' :: digits) :: rest =>
      if digits.contains ',' then some (19, fields)
      else do
        let n ← number? digits
        if n = 16 ∨ n = 19 then some (n, rest) else none
  | _ => some (19, fields)

/-- Takes the field of parameters off, if it is next. -/
def parameters? (fields : List (List Char)) : Option (Costs × List (List Char)) :=
  match fields with
  | field :: rest =>
      if field.contains '=' then (costs? field).map fun costs => (costs, rest)
      else some ({}, fields)
  | [] => some ({}, [])

/-- The salt of a field: eight octets at least. -/
def salt? (field : List Char) : Option Bytes :=
  if 4 ≤ field.length ∧ field.length ≤ 64 then do
    let salt ← Text.Base64.decode .standard field
    if 8 ≤ salt.length then some salt else none
  else none

/-- The hash of a field: 10 to 64 octets. -/
def output? (field : List Char) : Option Bytes := do
  let output ← octets? 64 field
  if 10 ≤ output.length then some output else none

def ofString? (text : String) : Option Encoded :=
  match Text.splitAll '$' text.toList with
  | [] :: name :: fields => do
      let variant ← variant? name
      let (version, fields) ← version? fields
      let (costs, fields) ← parameters? fields
      match fields with
      | [saltField, outputField] => do
          let salt ← salt? saltField
          let output ← output? outputField
          if Costs.areBounded costs then
            some { variant := variant, version := version, costs := costs, salt := salt
                   output := output }
          else none
      | _ => none
  | _ => none

def variantName : Argon2.Variant → String
  | .dependent => "argon2d"
  | .independent => "argon2i"
  | .hybrid => "argon2id"

/-- The fields in front of the salt. -/
def front (variant : Argon2.Variant) (version : Nat) (costs : Costs) : String :=
  let number (n : Nat) : String := String.ofList (Text.Decimal.ofNat n)
  "$" ++ variantName variant ++ "$v=" ++ number version ++ "$m=" ++ number costs.memory ++
    ",t=" ++ number costs.passes ++ ",p=" ++ number costs.lanes

/-- The text of a password hash without associated data. -/
def toText (encoded : Encoded) : String :=
  let base64 (octets : Bytes) : String := String.ofList (Text.Base64.encode .standard octets)
  front encoded.variant encoded.version encoded.costs ++ "$" ++ base64 encoded.salt ++ "$" ++
    base64 encoded.output

/-- What a password hashes to under the parameters and the salt of a hash. -/
def compute (encoded : Encoded) (password : String) : Bytes :=
  Argon2.hash
    { variant := encoded.variant, version := encoded.version, memory := encoded.costs.memory
      passes := encoded.costs.passes, lanes := encoded.costs.lanes
      associated := encoded.costs.associated }
    encoded.output.length (Utf8.ofString password) encoded.salt

end Encoded

end SessionServer.Password
