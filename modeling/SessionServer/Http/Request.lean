import SessionServer.Http.Headers
import SessionServer.Limit.Limiter

/-!
Requests, and which resource a request is for.
-/

namespace SessionServer.Http

structure Request where
  method : String
  target : String
  headers : Headers := Headers.empty
  body : Bytes := []
  client : Limit.Client := .internal
  deriving DecidableEq

/-- The part of `chars` in front of a query or a fragment. -/
def withoutQuery (chars : List Char) : List Char := chars.takeWhile fun c => c ≠ '?' && c ≠ '#'

/-- What follows the first colon and two slashes. -/
def afterScheme : List Char → Option (List Char)
  | ':' :: '/' :: '/' :: rest => some rest
  | _ :: rest => afterScheme rest
  | [] => none

/-- The path that a target names: a target is a path, or a scheme and a host in front of one. -/
def targetPath (target : String) : List Char :=
  let chars := target.toList
  if chars.head? = some '/' then withoutQuery chars
  else
    match afterScheme chars with
    | some rest =>
        let path := (withoutQuery rest).dropWhile (· ≠ '/')
        if path.isEmpty then ['/'] else path
    | none => chars

inductive Resource where
  | users
  | session
  | socket
  deriving DecidableEq, Repr

def Resource.ofPath? (path : List Char) : Option Resource :=
  if path = "/api/users".toList then some .users
  else if path = "/api/session".toList then some .session
  else if path = "/api/ws".toList then some .socket
  else none

def Request.resource? (request : Request) : Option Resource :=
  Resource.ofPath? (targetPath request.target)

end SessionServer.Http
