import SessionServer.Account.Table
import SessionServer.Database.Error
import SessionServer.Revocation.Backing

/-!
The tables of a database, and how a database is brought up to date. The table of versions is made and
read first; all that follows happens in one transaction, so a step that fails undoes the steps before
it.
-/

namespace SessionServer.Database

/-- The table of revoked tokens, with or without its index on expiries. -/
structure RevokedTokens where
  register : Revocation.Register := []
  indexed : Bool := false
  deriving DecidableEq, Repr

/-- What a database holds. A table may be missing, and the table of versions may lack its row. -/
structure Tables where
  version : Option (Option Int) := none
  accounts : Option Accounts := none
  revokedTokens : Option RevokedTokens := none
  deriving DecidableEq, Repr

namespace Tables

def accountsName : String := "users"

def versionsName : String := "schema_version"

def revokedTokensName : String := "revoked_tokens"

def empty : Tables := {}

/-- The version that this library writes. -/
def currentVersion : Int := 1

/-- The statements that bring tables to the first version. -/
inductive Statement where
  | createAccounts
  | createRevokedTokens
  | createIndex
  | setVersion (version : Int)
  deriving DecidableEq, Repr

def execute (tables : Tables) : Statement → Except Error Tables
  | .createAccounts =>
      if tables.accounts.isSome then .error (.tableExists accountsName)
      else .ok { tables with accounts := some Accounts.empty }
  | .createRevokedTokens =>
      if tables.revokedTokens.isSome then .error (.tableExists revokedTokensName)
      else .ok { tables with revokedTokens := some {} }
  | .createIndex =>
      match tables.revokedTokens with
      | some table => .ok { tables with revokedTokens := some { table with indexed := true } }
      | none => .error (.noSuchTable revokedTokensName)
  | .setVersion version => .ok { tables with version := some (some version) }

/-- Carries out statements as one transaction: all of them or none. -/
def transaction (tables : Tables) (statements : List Statement) : Except Error Tables :=
  statements.foldlM execute tables

def firstVersion : List Statement :=
  [.createAccounts, .createRevokedTokens, .createIndex, .setVersion currentVersion]

def withVersions (tables : Tables) : Tables :=
  if tables.version.isSome then tables else { tables with version := some none }

/-- The version of tables; those without a version are older than every version. -/
def versionNumber (tables : Tables) : Int :=
  match tables.version with
  | some (some version) => version
  | _ => 0

/-- Brings tables up to date: the tables afterwards, and the fault if that failed. -/
def migrate (tables : Tables) : Tables × Option Error :=
  let tables := tables.withVersions
  if tables.versionNumber < currentVersion then
    match tables.transaction firstVersion with
    | .ok updated => (updated, none)
    | .error error => (tables, some error)
  else (tables, none)

/-- The fault of bringing tables up to date if writing ends with `fault`. A statement that cannot be
carried out anyway is refused for its own reason. -/
def migrationFault? (tables : Tables) (fault : Error) : Option Error :=
  if tables.version.isNone then some fault
  else if tables.versionNumber < currentVersion then
    match tables.execute .createAccounts with
    | .ok _ => some fault
    | .error error => some error
  else none

end Tables

end SessionServer.Database
