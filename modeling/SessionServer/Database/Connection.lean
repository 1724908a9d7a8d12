import SessionServer.Database.Opening

/-!
An open database: its tables, where it is kept, whether its connections were closed, and whether it can be
written to. Opening a database brings its tables up to date.
-/

namespace SessionServer

/-- An open database. One without a path is kept in memory. -/
structure Database where
  path : Option Database.Path
  tables : Database.Tables
  isClosed : Bool := false
  /-- The fault that writing ends with, if the database cannot be written to. -/
  writeFault : Option Database.Error := none
  deriving DecidableEq, Repr

namespace Database

/-- An opened database, brought up to date: the database, and the fault if that failed. The first
connection makes the table of versions, and a second one reads it. That the database cannot be written to
is found only when something has to be written, be it now or later. -/
def ofOpened (opened : Opened) : Database × Option Error :=
  let path := match opened.storage with
    | .file path => some path
    | .common | .separate => none
  match opened.writeFault with
  | some fault =>
      ({ path := path, tables := opened.tables, writeFault := some fault },
        opened.tables.migrationFault? fault)
  | none =>
      match opened.secondFault with
      | some fault => ({ path := path, tables := opened.tables.withVersions }, some fault)
      | none =>
          let (tables, fault) := opened.tables.migrate
          ({ path := path, tables := tables }, fault)

/-- The files with the tables of a database written to its file. -/
def save (database : Database) (files : Files) : Files :=
  match database.path with
  | some path => files.put path (.database database.tables)
  | none => files

/-- Opens the database at an operator's path: the files afterwards, and the database. -/
def openAt (files : Files) (directory : Path) (path : String) : Files × Except Error Database :=
  match Location.ofPath path with
  | .error error => (files, .error error)
  | .ok location =>
      match Opened.ofLocation files directory location with
      | .error error => (files, .error error)
      | .ok opened =>
          let (database, fault) := ofOpened opened
          (database.save files, match fault with
            | some error => .error error
            | none => .ok database)

def accounts (database : Database) : Except Error Accounts :=
  if database.isClosed then .error .closed
  else
    match database.tables.accounts with
    | some accounts => .ok accounts
    | none => .error (.noSuchTable Tables.accountsName)

def revokedTokens (database : Database) : Except Error RevokedTokens :=
  if database.isClosed then .error .closed
  else
    match database.tables.revokedTokens with
    | some table => .ok table
    | none => .error (.noSuchTable Tables.revokedTokensName)

def setAccounts (database : Database) (accounts : Accounts) : Database :=
  { database with tables := { database.tables with accounts := some accounts } }

/-- The database with another register of revoked tokens. -/
def setRegister (database : Database) (register : Revocation.Register) : Database :=
  let table := (database.tables.revokedTokens).getD {}
  { database with
    tables := { database.tables with revokedTokens := some { table with register := register } } }

/-- The fault of a statement that may write. If the database may only be read, the statement is refused before
it looks for what to write; if no journal can be kept, it is refused only when it does write. -/
def refusal? (database : Database) (writes : Bool) : Option Error :=
  match database.writeFault with
  | some .readOnly => some .readOnly
  | some fault => if writes then some fault else none
  | none => none

/-- Ends a statement with its result, unless it is refused, which leaves all as it was before. -/
def conclude {σ ε α : Type} (refusal : Option ε) (before : σ) (result : σ × Except ε α) : σ × Except ε α :=
  match refusal with
  | some fault => (before, .error fault)
  | none => result

def Error.ofRefusal : Accounts.Refusal → Error
  | .full => .full
  | .emailTaken => .emailTaken

def createAccount (database : Database) (email displayName passwordHash : String) :
    Database × Except Error Int :=
  match database.accounts with
  | .error error => (database, .error error)
  | .ok accounts =>
      match accounts.create email displayName passwordHash with
      | .ok (accounts, id) =>
          conclude (database.refusal? true) database (database.setAccounts accounts, .ok id)
      | .error refusal =>
          conclude (database.refusal? false) database (database, .error (.ofRefusal refusal))

def deleteAccount (database : Database) (id : Int) : Database × Except Error Bool :=
  match database.accounts with
  | .error error => (database, .error error)
  | .ok accounts =>
      let (accounts, found) := accounts.delete id
      conclude (database.refusal? found) database (database.setAccounts accounts, .ok found)

def accountById (database : Database) (id : Int) : Except Error (Option Account) :=
  match database.accounts with
  | .error error => .error error
  | .ok accounts => .ok (accounts.byId? id)

def accountByEmail (database : Database) (email : String) : Except Error (Option Account) :=
  match database.accounts with
  | .error error => .error error
  | .ok accounts => .ok (accounts.byEmail? email)

def dropAccounts (database : Database) : Database :=
  { database with tables := { database.tables with accounts := none } }

def dropRevokedTokens (database : Database) : Database :=
  { database with tables := { database.tables with revokedTokens := none } }

/-- The database with its connections closed. -/
def close (database : Database) : Database := { database with isClosed := true }

end Database

end SessionServer
