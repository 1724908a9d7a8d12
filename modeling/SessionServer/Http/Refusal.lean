import SessionServer.Credential.Cookie
import SessionServer.Http.Response
import SessionServer.Session.Error

/-!
How requests are refused: with a status and a message. A request that is not authenticated gets the
same refusal whatever the reason, and its session cookie is cleared; only a fault of the stores is
told apart.
-/

namespace SessionServer.Http

inductive Refusal where
  | badRequest (message : String)
  | unauthorized (message : String)
  | conflict (message : String)
  | tooManyRequests (message : String)
  | internal (message : String)
  deriving DecidableEq, Repr

namespace Refusal

def ofDatabase : Refusal := .internal "Database error"

def status : Refusal → Nat
  | .badRequest _ => 400
  | .unauthorized _ => 401
  | .conflict _ => 409
  | .tooManyRequests _ => 429
  | .internal _ => 500

def message : Refusal → String
  | .badRequest message => message
  | .unauthorized message => message
  | .conflict message => message
  | .tooManyRequests message => message
  | .internal message => message

def document (message : String) : Json.Document := .object [("error", .text message)]

def response (refusal : Refusal) : Response :=
  Response.json refusal.status (document refusal.message)

/-- The response to a request that is not authenticated. -/
def ofSession (error : Session.Error) (secureCookies : Bool) : Response :=
  if error.isRetryable then
    { Response.json 503 (document "Service temporarily unavailable") with retryAfter := some 1 }
  else
    { Response.json 401 (document "Not authenticated") with
      setCookie := some (Credential.Cookie.clearing secureCookies) }

end Refusal

end SessionServer.Http
