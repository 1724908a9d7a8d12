import SessionServer.Http.Headers
import SessionServer.Text.Decimal

/-!
Cookies: reading one off a request, and writing the session cookie. A request may have several cookie
fields, each with several pairs; the first pair that has the name and is not empty counts. Fields that
cannot be read as text are passed over.
-/

namespace SessionServer.Credential.Cookie

/-- The name of the cookie that carries a session's token. -/
def sessionName : String := "session_token"

/-- The name and the value of a pair, without the blanks around them. -/
def pair? (part : List Char) : Option (List Char × List Char) :=
  (Text.splitOnce '=' (Text.trim part)).map fun pair => (Text.trim pair.1, Text.trim pair.2)

/-- The pairs of a cookie field, in order. -/
def pairs (field : List Char) : List (List Char × List Char) :=
  (Text.splitAll ';' field).filterMap pair?

/-- The pairs of all cookie fields that can be read, in order. -/
def allPairs (headers : Http.Headers) : List (List Char × List Char) :=
  (headers.all "cookie").flatMap fun value =>
    match value.text? with
    | some text => pairs text
    | none => []

/-- The value of the first cookie with a name that is not empty. -/
def find? (headers : Http.Headers) (name : String) : Option String :=
  (allPairs headers).findSome? fun pair =>
    if pair.1 = name.toList ∧ pair.2 ≠ [] then some (String.ofList pair.2) else none

/-- The attributes of every session cookie in front of its lifetime. -/
def attributes : String := "; HttpOnly; SameSite=Strict; Path=/; Max-Age="

/-- The cookie that carries a token for `lifetime` seconds. -/
def session (token : String) (lifetime : Nat) (secure : Bool) : String :=
  sessionName ++ "=" ++ token ++ attributes ++ String.ofList (Text.Decimal.ofNat lifetime) ++
    (if secure then "; Secure" else "")

/-- The cookie that makes a client forget its session cookie. -/
def clearing (secure : Bool) : String := session "" 0 secure

end SessionServer.Credential.Cookie
