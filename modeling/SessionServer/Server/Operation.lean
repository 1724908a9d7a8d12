import SessionServer.Server.State

/-!
What can be done to a server, and what comes of it. An operation that fails leaves everything as it
was, but for what a failing step is said to change.
-/

namespace SessionServer.Server

inductive Part where
  /-- The register of revoked tokens is out of reach. -/
  | revocations
  /-- Those who are asked for accounts are out of reach. -/
  | people
  deriving DecidableEq, Repr

/-- A loss that only a restart on another database undoes. -/
inductive Loss where
  | accounts
  | revokedTokens
  | connections
  deriving DecidableEq, Repr

inductive Operation where
  | revoke (token : String) (expiry : Nat)
  | isRevoked (token : String) (now : Nat)
  | purge (now : Nat)
  | cleanUp (now : Nat)
  | flush
  | size
  | rows
  | issue (principal : Principal) (issuedAt duration : Nat) (tokenId : String)
  | validate (headers : Http.Headers) (now : Nat)
  | validateToken (token : String) (now : Nat)
  | logout (headers : Http.Headers) (now : Nat)
  | recheck (session : Session.Authenticated) (now : Nat)
  | createAccount (email displayName passwordHash : String)
  | accountById (id : Int)
  | accountByEmail (email : String)
  | accountPrincipal (id : Int)
  | deleteAccount (id : Int)
  | putPerson (principal : Principal)
  | removePerson (id : Int)
  | fail (part : Part)
  | repair (part : Part)
  | lose (loss : Loss)
  | restart
  | files
  | request (moment : Endpoint.Moment) (request : Http.Request)

inductive Outcome where
  | done
  | truth (value : Bool)
  | count (value : Nat)
  | rows (register : Revocation.Register)
  | issued (token : Token.Issued)
  | authenticated (session : Session.Authenticated)
  | id (value : Int)
  | account (account : Option Account)
  | principal (principal : Option Principal)
  | files (names : List String)
  | response (response : Http.Response)
  | tokenError (error : Token.Error)
  | sessionError (error : Session.Error)
  | storeFault (fault : Session.StoreFault)
  | databaseError (error : Database.Error)
  deriving DecidableEq, Repr

namespace Operation

def outcome {ε α : Type} (fail : ε → Outcome) (succeed : α → Outcome) : Except ε α → Outcome
  | .ok value => succeed value
  | .error error => fail error

/-- The people after one of them has changed or joined. -/
def put (people : Session.People) (principal : Principal) : Session.People :=
  match people with
  | .database => .database
  | .listed principals unreachable lookups =>
      .listed ((principals.filter (·.id ≠ principal.id)) ++ [principal]) unreachable lookups

/-- The people without one of them, and whether there was one. -/
def remove (people : Session.People) (id : Int) : Session.People × Bool :=
  match people with
  | .database => (.database, false)
  | .listed principals unreachable lookups =>
      (.listed (principals.filter (·.id ≠ id)) unreachable lookups, principals.any (·.id = id))

def setUnreachable (people : Session.People) (unreachable : Bool) : Session.People :=
  match people with
  | .database => .database
  | .listed principals _ lookups => .listed principals unreachable lookups

def setReach (stores : Session.Stores) (part : Part) (unreachable : Bool) : Session.Stores :=
  match part with
  | .revocations => { stores with unreachable := unreachable }
  | .people => { stores with people := setUnreachable stores.people unreachable }

/-- The database after a loss. -/
def afterLoss (database : Database) : Loss → Database
  | .accounts => database.dropAccounts
  | .revokedTokens => database.dropRevokedTokens
  | .connections => database.close

/-- A step on the stores, as a step on the server. -/
def onStores {ε α : Type} (state : State) (fail : ε → Outcome) (succeed : α → Outcome)
    (result : Session.Stores × Except ε α) : State × Outcome :=
  (state.withStores result.1, outcome fail succeed result.2)

/-- A step on the database, as a step on the server. -/
def onDatabase {α : Type} (state : State) (succeed : α → Outcome)
    (result : Database × Except Database.Error α) : State × Outcome :=
  (state.withDatabase result.1, outcome .databaseError succeed result.2)

end Operation

open Operation in
def State.step (state : State) (operation : Operation) : State × Outcome :=
  let secret := state.setup.policy.secret
  let stores := state.site.stores
  let database := stores.database
  match operation with
  | .revoke token expiry =>
      onStores state .storeFault (fun _ => .done) (stores.revoke token expiry)
  | .isRevoked token now => onStores state .storeFault .truth (stores.isRevoked token now)
  | .purge now => onStores state .storeFault .count (stores.purge now)
  | .cleanUp now =>
      let (stores, count) := stores.cleanUp now
      (state.withStores stores, .count count)
  | .flush => onStores state .storeFault (fun _ => .done) stores.flush
  | .size => (state, outcome .storeFault .count stores.size)
  | .rows =>
      (state, outcome .databaseError (fun table => .rows table.register) database.revokedTokens)
  | .issue principal issuedAt duration tokenId =>
      (state, outcome .tokenError .issued
        (Token.issue secret principal issuedAt duration tokenId))
  | .validate headers now =>
      onStores state .sessionError .authenticated (Session.validate secret stores headers now)
  | .validateToken token now =>
      onStores state .sessionError .authenticated (Session.validateToken secret stores token now)
  | .logout headers now =>
      onStores state .sessionError (fun _ => .done) (Session.logout secret stores headers now)
  | .recheck session now =>
      onStores state .sessionError (fun _ => .done) (Session.recheck stores session now)
  | .createAccount email displayName passwordHash =>
      onDatabase state .id (database.createAccount email displayName passwordHash)
  | .accountById id => (state, outcome .databaseError .account (database.accountById id))
  | .accountByEmail email => (state, outcome .databaseError .account (database.accountByEmail email))
  | .accountPrincipal id => (state, outcome .storeFault .principal (stores.accountPrincipal id))
  | .deleteAccount id => onDatabase state .truth (database.deleteAccount id)
  | .putPerson principal =>
      (state.withStores { stores with people := put stores.people principal }, .done)
  | .removePerson id =>
      let (people, found) := remove stores.people id
      (state.withStores { stores with people := people }, .truth found)
  | .fail part => (state.withStores (setReach stores part true), .done)
  | .repair part => (state.withStores (setReach stores part false), .done)
  | .lose loss => (state.withDatabase (afterLoss database loss), .done)
  | .restart =>
      let (state, result) := state.restart
      (state, outcome .databaseError (fun _ => .done) result)
  | .files => (state, .files (state.savedFiles.names state.setup.directory))
  | .request moment asked =>
      let (site, response) := Endpoint.handle state.site moment asked
      ({ state with site := site }, .response response)

/-- Carries out operations in order: the outcomes, and the server afterwards. -/
def State.run (state : State) : List Operation → State × List Outcome
  | [] => (state, [])
  | operation :: rest =>
      let (state, outcome) := state.step operation
      let (state, outcomes) := state.run rest
      (state, outcome :: outcomes)

end SessionServer.Server
