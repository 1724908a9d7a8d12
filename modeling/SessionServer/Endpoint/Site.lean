import SessionServer.Http.JsonBody
import SessionServer.Http.Refusal
import SessionServer.Session.Validator

/-!
What endpoints work on, and what they need to know of the moment: the time, and the random choices
that are made in it.
-/

namespace SessionServer.Endpoint

structure Policy where
  secret : Bytes
  secureCookies : Bool := false
  /-- For how many seconds a session holds. -/
  sessionLifetime : Nat
  deriving DecidableEq, Repr

structure Site where
  policy : Policy
  stores : Session.Stores
  logins : Limit.Limiter := Limit.logins
  registrations : Limit.Limiter := Limit.registrations
  deriving DecidableEq, Repr

structure Moment where
  /-- The time, if the clock can be read. -/
  clock : Option Nat
  /-- The salt of a password that is hashed now. -/
  salt : Bytes
  /-- The identifier of a token that is issued now. -/
  tokenId : String
  deriving DecidableEq, Repr

namespace Site

/-- The stores as endpoints see them: accounts are looked up in the database. -/
def endpointStores (site : Site) : Session.Stores := { site.stores with people := .database }

/-- The site after an endpoint has used its stores. -/
def withStores (site : Site) (stores : Session.Stores) : Site :=
  { site with stores := { stores with people := site.stores.people } }

def withDatabase (site : Site) (database : Database) : Site :=
  { site with stores := { site.stores with database := database } }

end Site

def textField (name : String) : Json.Field String :=
  { name := name, required := true, read := Json.Record.text }

/-- The text of a field of a record that was read; a required field always has one. -/
def fieldAt (slots : Json.Slots String) (index : Nat) : String := ((slots[index]?).join).getD ""

end SessionServer.Endpoint
