import SessionServer.Digest.Hmac
import SessionServer.Text.Base64
import SessionServer.Text.Blank
import SessionServer.Token.Claims
import SessionServer.Token.Header

/-!
Issuing and reading session tokens. A token is header, payload and signature in base 64, joined by
points; the signature is the authentication code of the first two under the server's secret. Whether
a token is accepted depends on the clock through its expiry alone.
-/

namespace SessionServer.Token

inductive Error where
  /-- The clock cannot be read. -/
  | clock
  /-- The expiry is past the largest time. -/
  | lifetime
  /-- The token is not acceptable, for whatever reason. -/
  | invalid
  deriving DecidableEq, Repr

def Error.describe : Error → String
  | .clock => "System time error"
  | .lifetime => "Token lifetime out of range"
  | .invalid => "Invalid or expired token"

structure Issued where
  token : String
  issuedAt : Nat
  expiresAt : Nat
  duration : Nat
  deriving DecidableEq, Repr

def segment (document : Json.Document) : List Char :=
  Text.Base64.encode .url (Utf8.encode document.write)

/-- The part of a token that is signed. -/
def signingInput (header payload : List Char) : List Char := header ++ '.' :: payload

def signature (secret : Bytes) (input : List Char) : Bytes :=
  Digest.Hmac.code secret (Utf8.encode input)

/-- The text of the token with these claims. -/
def sign (secret : Bytes) (claims : Claims) : List Char :=
  let input := signingInput (segment Header.document) (segment claims.document)
  input ++ '.' :: Text.Base64.encode .url (signature secret input)

/-- Issues a token for a principal that holds for `duration` seconds from `issuedAt` on. The token id
tells it from every other token. -/
def issue (secret : Bytes) (principal : Principal) (issuedAt duration : Nat) (tokenId : String) :
    Except Error Issued :=
  let expiresAt := issuedAt + duration
  if Text.Decimal.maxWord < expiresAt then .error .lifetime
  else
    let claims : Claims :=
      { subject := principal.id, email := principal.email, displayName := principal.displayName
        tokenId := tokenId, issuedAt := issuedAt, expiresAt := expiresAt }
    .ok { token := String.ofList (sign secret claims), issuedAt := issuedAt
          expiresAt := expiresAt, duration := duration }

/-- What a token with a good signature states. -/
def signed? (secret : Bytes) (token : String) : Option Statement :=
  match Text.splitAll '.' token.toList with
  | [header, payload, code] => do
      let headerBytes ← Text.Base64.decode .url header
      let payloadBytes ← Text.Base64.decode .url payload
      let codeBytes ← Text.Base64.decode .url code
      if Header.accepts headerBytes && codeBytes == signature secret (signingInput header payload)
      then Statement.ofBytes? payloadBytes
      else none
  | _ => none

/-- The claims of a token with a good signature, whether or not they still hold. -/
def verify? (secret : Bytes) (token : String) : Option Claims :=
  (signed? secret token).bind Statement.claims?

/-- The claims of a token that has not expired at `now`. Its signature is looked at first, then its
expiry, and its subject last. -/
def read (secret : Bytes) (token : String) (now : Nat) : Except Error Claims :=
  match signed? secret token with
  | none => .error .invalid
  | some statement =>
      if statement.expiresAt ≤ now then .error .invalid
      else
        match statement.claims? with
        | some claims => .ok claims
        | none => .error .invalid

end SessionServer.Token
