import SessionServer.Endpoint.Router

/-!
A server with all that it depends on: its site, the files around it, and the place of its database.
-/

namespace SessionServer.Server

structure Setup where
  policy : Endpoint.Policy
  backing : Revocation.Backing
  people : Session.People := .database
  /-- The directory that relative paths start from. -/
  directory : Database.Path := []
  /-- The path of the database, as the operator gave it. -/
  path : String
  deriving DecidableEq, Repr

structure State where
  setup : Setup
  site : Endpoint.Site
  files : Database.Files
  deriving DecidableEq, Repr

namespace State

/-- The stores of a server whose database is open: no revocation in memory, and nothing amiss. -/
def freshStores (setup : Setup) (database : Database) : Session.Stores :=
  { backing := setup.backing, database := database, people := setup.people }

/-- Starts a server: the files afterwards, and the server. -/
def start (setup : Setup) (files : Database.Files) :
    Database.Files × Except Database.Error State :=
  match Database.openAt files setup.directory setup.path with
  | (files, .error error) => (files, .error error)
  | (files, .ok database) =>
      (files,
        .ok { setup := setup, files := files
              site := { policy := setup.policy, stores := freshStores setup database } })

def withStores (state : State) (stores : Session.Stores) : State :=
  { state with site := { state.site with stores := stores } }

def withDatabase (state : State) (database : Database) : State :=
  { state with site := state.site.withDatabase database }

/-- The files with all that the server has written. -/
def savedFiles (state : State) : Database.Files := state.site.stores.database.save state.files

/-- Restarts a server on the same database: its connections are closed, what it kept in memory and
the limits of its clients start anew, and who is asked for accounts stays. -/
def restart (state : State) : State × Except Database.Error Unit :=
  let stores := state.site.stores
  let closed := state.withDatabase stores.database.close
  match Database.openAt state.savedFiles state.setup.directory state.setup.path with
  | (files, .error error) => ({ closed with files := files }, .error error)
  | (files, .ok database) =>
      let fresh : Session.Stores :=
        { freshStores state.setup database with
          unreachable := stores.unreachable, people := stores.people }
      ({ state with
          files := files
          site := { policy := state.setup.policy, stores := fresh } }, .ok ())

end State

end SessionServer.Server
