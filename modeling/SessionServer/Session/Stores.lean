import SessionServer.Database.Connection

/-!
What sessions are checked against: the register of revoked tokens, in memory or in the database, and
those who know the accounts. Either can fail, and then tells nothing.
-/

namespace SessionServer.Session

inductive StoreFault where
  /-- Nobody listens. -/
  | refused
  | database (error : Database.Error)
  deriving DecidableEq, Repr

def StoreFault.cause : StoreFault → String
  | .refused => "connection refused"
  | .database error => error.describe

/-- A fault of a store in words, for any cause. -/
def describeStoreFault (cause : String) : String := "Store error: " ++ cause

def StoreFault.describe (fault : StoreFault) : String := describeStoreFault fault.cause

/-- Who is asked for accounts. -/
inductive People where
  /-- The database. -/
  | database
  /-- A list of principals, which may be out of reach; `lookups` counts the questions. -/
  | listed (principals : List Principal) (unreachable : Bool) (lookups : Nat)
  deriving DecidableEq, Repr

structure Stores where
  backing : Revocation.Backing
  /-- The register in memory. -/
  memory : Revocation.Register := []
  /-- Whether the register is out of reach. -/
  unreachable : Bool := false
  database : Database
  people : People := .database
  deriving DecidableEq, Repr

namespace Stores

/-- The register as it is, whether or not it is in reach. -/
def contents (stores : Stores) : Except StoreFault Revocation.Register :=
  match stores.backing with
  | .memory => .ok stores.memory
  | .database =>
      match stores.database.revokedTokens with
      | .ok table => .ok table.register
      | .error error => .error (.database error)

/-- The register, if it can be asked. -/
def register (stores : Stores) : Except StoreFault Revocation.Register :=
  if stores.unreachable then .error .refused else stores.contents

def setRegister (stores : Stores) (register : Revocation.Register) : Stores :=
  match stores.backing with
  | .memory => { stores with memory := register }
  | .database => { stores with database := stores.database.setRegister register }

/-- The fault of a call that may write into the register. -/
def refusal? (stores : Stores) (writes : Bool) : Option StoreFault :=
  match stores.backing with
  | .memory => none
  | .database => (stores.database.refusal? writes).map .database

def revoke (stores : Stores) (token : String) (expiry : Nat) : Stores × Except StoreFault Unit :=
  match stores.register with
  | .error fault => (stores, .error fault)
  | .ok register =>
      Database.conclude (stores.refusal? true) stores
        (stores.setRegister (stores.backing.revoke register token expiry), .ok ())

def isRevoked (stores : Stores) (token : String) (now : Nat) : Stores × Except StoreFault Bool :=
  match stores.register with
  | .error fault => (stores, .error fault)
  | .ok register =>
      let (register, revoked) := stores.backing.isRevoked register token now
      (stores.setRegister register, .ok revoked)

/-- Drops the entries that have ended by `now`, and counts them. -/
def purge (stores : Stores) (now : Nat) : Stores × Except StoreFault Nat :=
  match stores.register with
  | .error fault => (stores, .error fault)
  | .ok register =>
      let (register, count) := stores.backing.purge register now
      Database.conclude (stores.refusal? (0 < count)) stores (stores.setRegister register, .ok count)

/-- Purges as the scheduled task does: a fault counts as nothing dropped. -/
def cleanUp (stores : Stores) (now : Nat) : Stores × Nat :=
  match stores.purge now with
  | (stores, .ok count) => (stores, count)
  | (stores, .error _) => (stores, 0)

def flush (stores : Stores) : Stores × Except StoreFault Unit :=
  match stores.register with
  | .error fault => (stores, .error fault)
  | .ok _ =>
      Database.conclude (stores.refusal? true) stores
        (stores.setRegister Revocation.Register.empty, .ok ())

/-- How many entries there are, ended ones included. -/
def size (stores : Stores) : Except StoreFault Nat :=
  match stores.register with
  | .error fault => .error fault
  | .ok register => .ok register.length

/-- The principal of the account with an id in the database. -/
def accountPrincipal (stores : Stores) (id : Int) : Except StoreFault (Option Principal) :=
  match stores.database.accountById id with
  | .ok account => .ok (account.map Account.principal)
  | .error error => .error (.database error)

/-- The principal with an id, by those who are asked for accounts. -/
def principal (stores : Stores) (id : Int) : Stores × Except StoreFault (Option Principal) :=
  match stores.people with
  | .database => (stores, stores.accountPrincipal id)
  | .listed principals unreachable lookups =>
      let stores := { stores with people := .listed principals unreachable (lookups + 1) }
      if unreachable then (stores, .error .refused)
      else (stores, .ok (principals.find? (·.id = id)))

end Stores

end SessionServer.Session
