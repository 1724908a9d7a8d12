/-!
Why a request is not authenticated. Clients learn only whether trying again may help.
-/

namespace SessionServer.Session

inductive Error where
  | noCredentials
  | revokedToken
  | invalidOrExpiredToken
  | unknownPrincipal
  /-- The revocations or the accounts cannot be asked. -/
  | validatorUnavailable
  deriving DecidableEq, Repr

def Error.describe : Error → String
  | .noCredentials => "no_credentials"
  | .revokedToken => "revoked_token"
  | .invalidOrExpiredToken => "invalid_or_expired_token"
  | .unknownPrincipal => "unknown_principal"
  | .validatorUnavailable => "validator_unavailable"

/-- Whether the same request may succeed later. -/
def Error.isRetryable : Error → Bool
  | .validatorUnavailable => true
  | _ => false

end SessionServer.Session
