import SessionServer.Json.Writer

/-!
Responses. Of the header fields only those are kept that a client acts on.
-/

namespace SessionServer.Http

structure Response where
  status : Nat
  /-- The methods that a resource knows. -/
  allow : Option String := none
  contentType : Option String := none
  /-- After how many seconds it is worth trying again. -/
  retryAfter : Option Nat := none
  setCookie : Option String := none
  body : String := ""
  deriving DecidableEq, Repr

namespace Response

def fields (response : Response) : List (String × String) :=
  let named (name : String) (value : Option String) : List (String × String) :=
    (value.map fun value => (name, value)).toList
  named "allow" response.allow ++ named "content-type" response.contentType ++
    named "retry-after"
      (response.retryAfter.map fun seconds => String.ofList (Text.Decimal.ofNat seconds)) ++
    named "set-cookie" response.setCookie

def json (status : Nat) (document : Json.Document) : Response :=
  { status := status, contentType := some "application/json", body := document.render }

def text (status : Nat) (body : String) : Response :=
  { status := status, contentType := some "text/plain; charset=utf-8", body := body }

/-- The response to a request for something that is not there. -/
def notFound : Response := { status := 404 }

/-- The response to a method that a resource does not know. -/
def methodNotAllowed (methods : String) : Response := { status := 405, allow := some methods }

def withoutBody (response : Response) : Response := { response with body := "" }

end Response

end SessionServer.Http
