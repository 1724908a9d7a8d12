import SessionServer.Account.Principal
import SessionServer.Json.Record
import SessionServer.Json.Writer

/-!
What a session token says: whose session it is, which token it is, and from when to when it holds.
The claims are the token's payload, a JSON object.
-/

namespace SessionServer.Token

structure Claims where
  subject : Int
  email : String
  displayName : String
  tokenId : String
  issuedAt : Nat
  expiresAt : Nat
  deriving DecidableEq, Repr

def Claims.principal (claims : Claims) : Principal :=
  { id := claims.subject, email := claims.email, displayName := claims.displayName }

/-- The claims as they are written: the subject is a text. -/
def Claims.document (claims : Claims) : Json.Document :=
  .object [
    ("sub", .text (String.ofList (Text.Decimal.ofInt claims.subject))),
    ("email", .text claims.email),
    ("name", .text claims.displayName),
    ("jti", .text claims.tokenId),
    ("iat", .natural claims.issuedAt),
    ("exp", .natural claims.expiresAt)]

inductive Entry where
  | text (content : String)
  | time (seconds : Nat)

def textField (name : String) : Json.Field Entry :=
  { name := name, required := true, read := Json.Reader.map .text Json.Record.text }

def timeField (name : String) : Json.Field Entry :=
  { name := name, required := true, read := Json.Reader.map .time Json.Record.natural }

def payload : Json.Record Entry :=
  { name := "claims"
    fields := [textField "sub", textField "email", textField "name", textField "jti",
      timeField "iat", timeField "exp"] }

/-- Whether a value was understood as what its field is for. -/
inductive Understood where
  | yes
  | no
  deriving DecidableEq, Repr

/-- Reads a value of which it only matters whether it can be understood. One that cannot is passed
over as far as it was read. -/
def attempt {α : Type} (understands : α → Bool) (read : Json.Reader α) : Json.Reader Understood :=
  fun bytes =>
    match read bytes with
    | .ok (value, rest) => .ok (if understands value then .yes else .no, rest)
    | .error fault => .ok (.no, fault.unread)

/-- A time in any notation. Lists and objects are not times; an empty one is passed over. -/
def time : Json.Reader Unit := fun bytes =>
  let rest := Json.skipBlanks bytes
  match rest with
  | 0x5B :: inner => Json.refuse .expectedValue (Json.leave (Json.endList inner))
  | 0x7B :: inner => Json.refuse .expectedValue (Json.leave (Json.endObject inner))
  | _ => Json.Reader.map (fun _ => ()) (Json.tree Json.depthLimit) rest

/-- Whether a value names an audience: a text, or a list of texts. -/
def namesAudience : Json.Tree → Bool
  | .text _ => true
  | .list elements => elements.all fun element => element.text?.isSome
  | _ => false

/-- Reads a value as a tree inside an object. -/
def nested : Json.Reader Json.Tree := Json.tree (Json.depthLimit - 1)

/-- The standard claims that have a meaning of their own: the start of validity, the issuer and the
audience. Each may be given once. -/
def standardClaims : Json.Record Understood :=
  { name := "standard claims"
    fields := [
      { name := "nbf", required := false, read := attempt (fun _ => true) time },
      { name := "iss", required := false, read := attempt namesAudience nested },
      { name := "aud", required := false, read := attempt namesAudience nested }] }

/-- Whether the payload may be accepted as far as its standard claims go: they can be read, and none
names an audience, since a session token is for nobody but this server. -/
def standardClaimsAllow (bytes : Bytes) : Bool :=
  match standardClaims.ofBytes bytes with
  | .ok [_, _, some .yes] => false
  | .ok _ => true
  | .error _ => false

/-- What a payload states. Its subject has been read as a text only. -/
structure Statement where
  subject : String
  email : String
  displayName : String
  tokenId : String
  issuedAt : Nat
  expiresAt : Nat
  deriving DecidableEq, Repr

/-- What a payload states. Fields that are not known are passed over. -/
def Statement.ofBytes? (bytes : Bytes) : Option Statement :=
  match payload.ofBytes bytes with
  | .ok [some (.text subject), some (.text email), some (.text name), some (.text tokenId),
      some (.time issuedAt), some (.time expiresAt)] =>
      if standardClaimsAllow bytes then
        some { subject := subject, email := email, displayName := name, tokenId := tokenId
               issuedAt := issuedAt, expiresAt := expiresAt }
      else none
  | _ => none

/-- The claims that are stated, if the subject is the number of an account. -/
def Statement.claims? (statement : Statement) : Option Claims :=
  (Text.Decimal.signed? statement.subject.toList).map fun id =>
    { subject := id, email := statement.email, displayName := statement.displayName
      tokenId := statement.tokenId, issuedAt := statement.issuedAt, expiresAt := statement.expiresAt }

/-- The claims of a payload. -/
def Claims.ofBytes? (bytes : Bytes) : Option Claims :=
  (Statement.ofBytes? bytes).bind Statement.claims?

end SessionServer.Token
