import SessionServer.Credential.Cookie

/-!
Which token a request presents. A session cookie wins over the authorization field, in which only the
bearer scheme is known.
-/

namespace SessionServer.Credential

/-- The token behind the bearer scheme in the first authorization field. -/
def bearer? (headers : Http.Headers) : Option String := do
  let value ← headers.first? "authorization"
  let text ← value.text?
  let (scheme, rest) ← Text.splitOnce ' ' (Text.trim text)
  let token := Text.trim rest
  if Text.lowerAscii scheme = "bearer".toList ∧ token ≠ [] then some (String.ofList token) else none

/-- The token that a request presents. -/
def presented? (headers : Http.Headers) : Option String :=
  Cookie.find? headers Cookie.sessionName <|> bearer? headers

end SessionServer.Credential
