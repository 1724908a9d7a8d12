import SessionServer.Endpoint.Registration
import SessionServer.Token.Codec

/-!
Login: an address and a password for a session token. A wrong address and a wrong password get the
same answer.
-/

namespace SessionServer.Endpoint.Login

structure Form where
  email : String
  password : String
  deriving DecidableEq, Repr

def record : Json.Record String :=
  { name := "struct LoginRequest", fields := [textField "email", textField "password"] }

def Form.ofSlots (slots : Json.Slots String) : Form :=
  { email := fieldAt slots 0, password := fieldAt slots 1 }

/-- The refusal of wrong credentials. -/
def invalidCredentials : Http.Refusal := .unauthorized "Invalid email or password"

/-- The account that the credentials are for. A password that no account can have is not tried. -/
def authenticate (database : Database) (form : Form) : Except Http.Refusal Account :=
  if Registration.maxPasswordLength < form.password.length then .error invalidCredentials
  else
    match database.accountByEmail (Text.trimmed form.email) with
    | .error _ => .error .ofDatabase
    | .ok none => .error invalidCredentials
    | .ok (some account) =>
        if Password.verify form.password account.passwordHash then .ok account
        else .error invalidCredentials

structure Begun where
  issued : Token.Issued
  user : Principal
  deriving DecidableEq, Repr

def begin? (policy : Policy) (database : Database) (moment : Moment) (form : Form) :
    Except Http.Refusal Begun :=
  match authenticate database form with
  | .error refusal => .error refusal
  | .ok account =>
      match moment.clock with
      | none => .error (.internal "Failed to read clock")
      | some now =>
          match Token.issue policy.secret account.principal now policy.sessionLifetime
              moment.tokenId with
          | .ok issued => .ok { issued := issued, user := account.principal }
          | .error _ => .error (.internal "Failed to generate token")

def Begun.response (session : Begun) (secureCookies : Bool) : Http.Response :=
  { Http.Response.json 200
      (.object [("token", .text session.issued.token),
        ("expires_at", .natural session.issued.expiresAt), ("user", session.user.document)]) with
    setCookie :=
      some (Credential.Cookie.session session.issued.token session.issued.duration secureCookies) }

def answer (site : Site) (moment : Moment) (request : Http.Request) : Http.Response :=
  match Http.JsonBody.read record request with
  | .error response => response
  | .ok slots =>
      match begin? site.policy site.stores.database moment (Form.ofSlots slots) with
      | .ok session => session.response site.policy.secureCookies
      | .error refusal => refusal.response

end SessionServer.Endpoint.Login
