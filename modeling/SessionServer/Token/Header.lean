import SessionServer.Json.Writer
import SessionServer.Token.KeyObject

/-!
The header of a token. It must name the one algorithm that session tokens are signed with; the
standard members must have their types, and every other member is a text.
-/

namespace SessionServer.Token.Header

open Json (Tree)

def algorithm : String := "HS256"

def document : Json.Document := .object [("typ", .text "JWT"), ("alg", .text algorithm)]

def isAlgorithm : Tree → Bool
  | .text name => name == algorithm
  | .object [(name, .null)] => name == algorithm
  | _ => false

/-- The standard members that may be left out, each with its test. -/
def optionalFields : List (String × (Tree → Bool)) :=
  [("typ", KeyObject.isText), ("cty", KeyObject.isText), ("jku", KeyObject.isText),
    ("jwk", KeyObject.isKey), ("kid", KeyObject.isText), ("x5u", KeyObject.isText),
    ("x5c", KeyObject.isTexts), ("x5t", KeyObject.isText), ("x5t#S256", KeyObject.isText),
    ("crit", KeyObject.isTexts), ("enc", KeyObject.isText), ("zip", KeyObject.isText),
    ("url", KeyObject.isText), ("nonce", KeyObject.isText)]

def isStandard (key : String) : Bool := key == "alg" || optionalFields.any (·.1 == key)

def isAcceptable (members : KeyObject.Members) : Bool :=
  KeyObject.required members "alg" isAlgorithm &&
    (optionalFields.all fun field =>
      KeyObject.optional members field.1 (KeyObject.orNull field.2)) &&
    members.all fun member => isStandard member.1 || KeyObject.isText member.2

/-- Whether octets hold an acceptable header. -/
def accepts (bytes : Bytes) : Bool :=
  match Json.Tree.ofBytes? bytes with
  | some (.object members) => isAcceptable members
  | _ => false

end SessionServer.Token.Header
