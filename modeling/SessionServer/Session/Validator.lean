import SessionServer.Credential.Presented
import SessionServer.Session.Error
import SessionServer.Session.Stores
import SessionServer.Token.Codec

/-!
Authenticating requests and logging out. A check goes in a fixed order and stops at its first
failure: the token that the request presents, the register of revoked tokens, signature and expiry,
and whether the account still exists. A store that does not answer never lets a request pass.
-/

namespace SessionServer.Session

/-- A session that was found good, with the token it was found by. -/
structure Authenticated where
  principal : Principal
  expiresAt : Nat
  token : String
  deriving DecidableEq, Repr

/-- A session as diagnostics show it: without its token. -/
def Authenticated.describe (session : Authenticated) : String :=
  "Authenticated \x7b principal: " ++ session.principal.describe ++ ", expires_at: " ++
    String.ofList (Text.Decimal.ofNat session.expiresAt) ++ ", .. \x7d"

/-- Fails if a token is revoked at `now`. -/
def checkNotRevoked (stores : Stores) (token : String) (now : Nat) : Stores × Except Error Unit :=
  match stores.isRevoked token now with
  | (stores, .error _) => (stores, .error .validatorUnavailable)
  | (stores, .ok true) => (stores, .error .revokedToken)
  | (stores, .ok false) => (stores, .ok ())

/-- Fails unless those who are asked know the principal with an id. -/
def checkKnown (stores : Stores) (id : Int) : Stores × Except Error Unit :=
  match stores.principal id with
  | (stores, .error _) => (stores, .error .validatorUnavailable)
  | (stores, .ok none) => (stores, .error .unknownPrincipal)
  | (stores, .ok (some _)) => (stores, .ok ())

def validateToken (secret : Bytes) (stores : Stores) (token : String) (now : Nat) :
    Stores × Except Error Authenticated :=
  match checkNotRevoked stores token now with
  | (stores, .error error) => (stores, .error error)
  | (stores, .ok ()) =>
      match Token.read secret token now with
      | .error _ => (stores, .error .invalidOrExpiredToken)
      | .ok claims =>
          match checkKnown stores claims.subject with
          | (stores, .error error) => (stores, .error error)
          | (stores, .ok ()) =>
              (stores,
                .ok { principal := claims.principal, expiresAt := claims.expiresAt
                      token := token })

/-- Authenticates a request at `now` by its header fields. -/
def validate (secret : Bytes) (stores : Stores) (headers : Http.Headers) (now : Nat) :
    Stores × Except Error Authenticated :=
  match Credential.presented? headers with
  | none => (stores, .error .noCredentials)
  | some token => validateToken secret stores token now

/-- Checks a session again at `now`: it fails once its token is revoked or has expired. -/
def recheck (stores : Stores) (session : Authenticated) (now : Nat) : Stores × Except Error Unit :=
  match checkNotRevoked stores session.token now with
  | (stores, .error error) => (stores, .error error)
  | (stores, .ok ()) =>
      (stores, if now < session.expiresAt then .ok () else .error .invalidOrExpiredToken)

/-- Revokes the token that a request presents. A token that does not verify cannot be used again, so
it is accepted without an entry; a fault is reported. -/
def logout (secret : Bytes) (stores : Stores) (headers : Http.Headers) (now : Nat) :
    Stores × Except Error Unit :=
  match Credential.presented? headers with
  | none => (stores, .error .noCredentials)
  | some token =>
      match Token.read secret token now with
      | .error _ => (stores, .ok ())
      | .ok claims =>
          match stores.revoke token claims.expiresAt with
          | (stores, .error _) => (stores, .error .validatorUnavailable)
          | (stores, .ok ()) => (stores, .ok ())

end SessionServer.Session
