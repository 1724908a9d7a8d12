import SessionServer.Endpoint.Login
import SessionServer.Endpoint.Session

/-!
Which endpoint answers a request. Registrations are limited whatever the method, logins only when
they are posted; a request beyond its limit reaches no endpoint.
-/

namespace SessionServer.Endpoint

def tooManyLogins : Http.Response :=
  (Http.Refusal.tooManyRequests
    "Too many login attempts. Please wait before trying again.").response

def tooManyRegistrations : Http.Response :=
  (Http.Refusal.tooManyRequests
    "Too many signup attempts. Please wait before trying again.").response

def usersMethods : String := "POST"

def sessionMethods : String := "POST,GET,HEAD,DELETE"

def socketMethods : String := "GET,HEAD"

def users (site : Site) (moment : Moment) (request : Http.Request) : Site × Http.Response :=
  match site.registrations.grant request.client with
  | (_, false) =>
      (site,
        if request.method = "POST" then tooManyRegistrations
        else { tooManyRegistrations with allow := some usersMethods })
  | (limiter, true) =>
      let site := { site with registrations := limiter }
      if request.method = "POST" then Registration.answer site moment request
      else (site, Http.Response.methodNotAllowed usersMethods)

def login (site : Site) (moment : Moment) (request : Http.Request) : Site × Http.Response :=
  match site.logins.grant request.client with
  | (_, false) => (site, tooManyLogins)
  | (limiter, true) =>
      let site := { site with logins := limiter }
      (site, Login.answer site moment request)

def session (site : Site) (moment : Moment) (request : Http.Request) : Site × Http.Response :=
  if request.method = "POST" then login site moment request
  else if request.method = "GET" ∨ request.method = "HEAD" then Session.current site moment request
  else if request.method = "DELETE" then Session.logout site moment request
  else (site, Http.Response.methodNotAllowed sessionMethods)

def socket (site : Site) (moment : Moment) (request : Http.Request) : Site × Http.Response :=
  if request.method = "GET" ∨ request.method = "HEAD" then Session.socket site moment request
  else (site, Http.Response.methodNotAllowed socketMethods)

/-- Answers a request, with a body whatever the method. -/
def route (site : Site) (moment : Moment) (request : Http.Request) : Site × Http.Response :=
  match request.resource? with
  | some .users => users site moment request
  | some .session => session site moment request
  | some .socket => socket site moment request
  | none => (site, Http.Response.notFound)

/-- Answers a request. A request for the head alone gets no body. -/
def handle (site : Site) (moment : Moment) (request : Http.Request) : Site × Http.Response :=
  let (site, response) := route site moment request
  (site, if request.method = "HEAD" then response.withoutBody else response)

end SessionServer.Endpoint
