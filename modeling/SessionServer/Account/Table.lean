import SessionServer.Account.Mailbox
import SessionServer.Account.Principal
import SessionServer.Text.Decimal

/-!
The table of accounts. No two accounts share an address, and an id is never given twice, not even
after its account was deleted; so once the last id was given, no account can be added any more.
-/

namespace SessionServer

structure Account where
  id : Int
  email : String
  displayName : String
  passwordHash : String
  deriving DecidableEq, Repr

def Account.principal (account : Account) : Principal :=
  { id := account.id, email := account.email, displayName := account.displayName }

/-- Accounts in the order of their creation, and the last id that was given. -/
structure Accounts where
  rows : List Account := []
  lastId : Int := 0
  deriving DecidableEq, Repr

namespace Accounts

/-- Why no account is added. -/
inductive Refusal where
  /-- No id is left. -/
  | full
  /-- Another account has the address. -/
  | emailTaken
  deriving DecidableEq, Repr

def empty : Accounts := {}

def byId? (accounts : Accounts) (id : Int) : Option Account := accounts.rows.find? (·.id = id)

def byEmail? (accounts : Accounts) (email : String) : Option Account :=
  accounts.rows.find? fun account => Mailbox.same account.email email

/-- Adds an account under the next id. An id is looked for before the address is. -/
def create (accounts : Accounts) (email displayName passwordHash : String) :
    Except Refusal (Accounts × Int) :=
  if (Text.Decimal.maxSigned : Int) ≤ accounts.lastId then .error .full
  else if (accounts.byEmail? email).isSome then .error .emailTaken
  else
    let id := accounts.lastId + 1
    let account : Account :=
      { id := id, email := email, displayName := displayName, passwordHash := passwordHash }
    .ok ({ rows := accounts.rows ++ [account], lastId := id }, id)

/-- Removes the account with an id, and tells whether there was one. -/
def delete (accounts : Accounts) (id : Int) : Accounts × Bool :=
  ({ accounts with rows := accounts.rows.filter (·.id ≠ id) }, (accounts.byId? id).isSome)

end Accounts

end SessionServer
