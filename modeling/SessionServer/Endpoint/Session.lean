import SessionServer.Endpoint.Site
import SessionServer.Socket.Message

/-!
Endpoints for those who have a session: asking for it, ending it, and opening a socket with it.
-/

namespace SessionServer.Endpoint.Session

open SessionServer.Session (Authenticated)

/-- Finds the session that a request presents. Without a time no session is looked for. -/
def authenticate (site : Site) (clock : Option Nat) (headers : Http.Headers) :
    Site × Except SessionServer.Session.Error Authenticated :=
  match clock with
  | none => (site, .error .validatorUnavailable)
  | some now =>
      let (stores, result) :=
        SessionServer.Session.validate site.policy.secret site.endpointStores headers now
      (site.withStores stores, result)

/-- Answers a request that needs a session: `respond` says how, once the session was found good. -/
def authenticated (site : Site) (moment : Moment) (request : Http.Request)
    (respond : Authenticated → Http.Response) : Site × Http.Response :=
  match authenticate site moment.clock request.headers with
  | (after, .ok session) => (after, respond session)
  | (after, .error error) => (after, Http.Refusal.ofSession error site.policy.secureCookies)

def current (site : Site) (moment : Moment) (request : Http.Request) : Site × Http.Response :=
  authenticated site moment request fun session =>
    Http.Response.json 200
      (.object [("user", session.principal.document), ("expires_at", .natural session.expiresAt)])

/-- Ends the session that a request presents. Without a time none is ended. -/
def endSession (site : Site) (clock : Option Nat) (headers : Http.Headers) :
    Site × Except SessionServer.Session.Error Unit :=
  match clock with
  | none => (site, .error .validatorUnavailable)
  | some now =>
      let (stores, result) :=
        SessionServer.Session.logout site.policy.secret site.endpointStores headers now
      (site.withStores stores, result)

/-- Ends the session that a request presents, and clears its cookie. -/
def logout (site : Site) (moment : Moment) (request : Http.Request) : Site × Http.Response :=
  match endSession site moment.clock request.headers with
  | (after, .ok ()) =>
      (after,
        { Http.Response.json 200 (.object [("success", .boolean true)]) with
          setCookie := some (Credential.Cookie.clearing site.policy.secureCookies) })
  | (after, .error error) => (after, Http.Refusal.ofSession error site.policy.secureCookies)

/-- Answers a request for a socket on a connection that cannot become one. Where the connection can, the
request is checked in the same way, and a good session opens a socket (`Server.Live.connect`). -/
def socket (site : Site) (moment : Moment) (request : Http.Request) : Site × Http.Response :=
  authenticated site moment request fun _ => Http.Response.text 400 "Expected WebSocket upgrade"

end SessionServer.Endpoint.Session
