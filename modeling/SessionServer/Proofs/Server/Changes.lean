import SessionServer.Proofs.Database.Reopening
import SessionServer.Proofs.Server.Runs
import SessionServer.Proofs.Session.Steps

/-!
What operations and requests do to the revocations that are kept. Only a flush, the loss of their table
and a restart on another database take them away; whatever else a server does changes its register in one
of the usual ways.
-/

namespace SessionServer
open Session (Stores)

/-- Writing to other tables leaves the revocations alone. -/
theorem Session.Stores.withDatabase_changes {stores : Stores} {changed : Database} (now : Nat)
    (path : changed.path = stores.database.path)
    (same : changed.tables.revokedTokens = stores.database.tables.revokedTokens) :
    stores.Changes now { stores with database := changed } := by
  refine (Stores.Changes.refl stores now).frame rfl path ?_
  simp only [Stores.entries?, same]

theorem Database.createAccount_frame (database : Database) (email displayName passwordHash : String) :
    ∃ accounts, (database.createAccount email displayName passwordHash).1 =
      { database with tables := { database.tables with accounts := accounts } } := by
  obtain ⟨accounts, written, -⟩ :=
    @createAccount_edits none database email displayName passwordHash
  exact ⟨accounts, written⟩

theorem Database.deleteAccount_frame (database : Database) (id : Int) :
    ∃ accounts, (database.deleteAccount id).1 =
      { database with tables := { database.tables with accounts := accounts } } := by
  obtain ⟨accounts, written, -⟩ := database.deleteAccount_edits id
  exact ⟨accounts, written⟩

namespace Endpoint.Registration

/-- A registration writes what creating its account writes, if its form passes the check. -/
theorem register_fst_eq (database : Database) (moment : Moment) (form : Form) :
    (register database moment form).1 =
      match check (Text.trimmed form.email) (Text.trimmed form.displayName) form.password with
      | .ok () => (database.createAccount (Text.trimmed form.email) (Text.trimmed form.displayName)
          (Password.hash moment.salt form.password)).1
      | .error _ => database := by
  unfold register
  simp only
  cases check (Text.trimmed form.email) (Text.trimmed form.displayName) form.password with
  | error => rfl
  | ok =>
    simp only
    split
    next created => rw [created]
    next refused => rw [refused]
    next failed => rw [failed]

theorem register_fst (database : Database) (moment : Moment) (form : Form) :
    ∃ accounts, (register database moment form).1 =
      { database with tables := { database.tables with accounts := accounts } } := by
  rw [register_fst_eq]
  split
  next => exact database.createAccount_frame _ _ _
  next => exact ⟨database.tables.accounts, rfl⟩

end Endpoint.Registration

namespace Endpoint
variable {site : Site} {now : Nat}

/-- What endpoints do to their stores is done to the site's. -/
theorem withStores_changes {stores : Stores} (changes : Stores.Changes now site.endpointStores stores) :
    Stores.Changes now site.stores (site.withStores stores).stores where
  backing := changes.backing
  path := changes.path
  entries := changes.entries

theorem authenticate_changes {clock : Option Nat} (reads : ∀ time, clock = some time → time = now)
    (site : Site) (headers : Http.Headers) :
    Stores.Changes now site.stores (Session.authenticate site clock headers).1.stores := by
  cases clock with
  | none => exact .refl site.stores now
  | some time =>
    cases reads time rfl
    exact withStores_changes (SessionServer.Session.validate_changes _ site.endpointStores headers now)

theorem endSession_changes {clock : Option Nat} (reads : ∀ time, clock = some time → time = now)
    (site : Site) (headers : Http.Headers) :
    Stores.Changes now site.stores (Session.endSession site clock headers).1.stores := by
  cases clock with
  | none => exact .refl site.stores now
  | some time =>
    cases reads time rfl
    exact withStores_changes (SessionServer.Session.logout_changes _ site.endpointStores headers now)

theorem authenticated_fst (site : Site) (moment : Moment) (request : Http.Request)
    (respond : SessionServer.Session.Authenticated → Http.Response) :
    (Session.authenticated site moment request respond).1 =
      (Session.authenticate site moment.clock request.headers).1 := by
  unfold Session.authenticated
  split
  next found => rw [found]
  next refused => rw [refused]

theorem logout_fst (site : Site) (moment : Moment) (request : Http.Request) :
    (Session.logout site moment request).1 =
      (Session.endSession site moment.clock request.headers).1 := by
  unfold Session.logout
  split
  next ended => rw [ended]
  next refused => rw [refused]

theorem answer_changes (site : Site) (moment : Moment) (request : Http.Request) (now : Nat) :
    Stores.Changes now site.stores (Registration.answer site moment request).1.stores := by
  unfold Registration.answer
  split
  next => exact .refl site.stores now
  next slots _ =>
    obtain ⟨accounts, written⟩ := Registration.register_fst site.stores.database moment
      (Registration.Form.ofSlots slots)
    have changes : Stores.Changes now site.stores (site.withDatabase
        (Registration.register site.stores.database moment (Registration.Form.ofSlots slots)).1).stores := by
      rw [written]
      exact Stores.withDatabase_changes now rfl rfl
    split
    next registered =>
      rw [registered] at changes
      exact changes
    next registered =>
      rw [registered] at changes
      exact changes

theorem users_changes (site : Site) (moment : Moment) (request : Http.Request) (now : Nat) :
    Stores.Changes now site.stores (users site moment request).1.stores := by
  unfold users
  split
  next => exact .refl site.stores now
  next limiter _ =>
    simp only
    split
    next => exact answer_changes { site with registrations := limiter } moment request now
    next => exact .refl site.stores now

variable {moment : Moment}

theorem session_changes (reads : ∀ time, moment.clock = some time → time = now) (site : Site)
    (request : Http.Request) : Stores.Changes now site.stores (session site moment request).1.stores := by
  unfold session
  split
  next =>
    unfold login
    split
    next => exact .refl site.stores now
    next => exact .refl site.stores now
  next =>
    split
    next =>
      rw [Session.current, authenticated_fst]
      exact authenticate_changes reads site request.headers
    next =>
      split
      next =>
        rw [logout_fst]
        exact endSession_changes reads site request.headers
      next => exact .refl site.stores now

theorem socket_changes (reads : ∀ time, moment.clock = some time → time = now) (site : Site)
    (request : Http.Request) : Stores.Changes now site.stores (socket site moment request).1.stores := by
  unfold socket
  split
  next =>
    rw [Session.socket, authenticated_fst]
    exact authenticate_changes reads site request.headers
  next => exact .refl site.stores now

theorem handle_changes (reads : ∀ time, moment.clock = some time → time = now) (site : Site)
    (request : Http.Request) : Stores.Changes now site.stores (handle site moment request).1.stores := by
  show Stores.Changes now site.stores (route site moment request).1.stores
  unfold route
  split
  next => exact users_changes site moment request now
  next => exact session_changes reads site request
  next => exact socket_changes reads site request
  next => exact .refl site.stores now

end Endpoint

namespace Server

/-- A server whose revocations are in a database that a restart opens again. -/
structure State.IsDurable (state : State) : Prop where
  setup : state.setup.backing = .database
  backing : state.site.stores.backing = .database
  place : ∃ path, state.site.stores.database.path = some path ∧
    Database.LeadsTo state.setup.directory state.setup.path path

/-- Whether an operation on a server neither flushes its revocations, nor drops their table, nor starts
without them. -/
def Operation.Retains (state : State) : Operation → Prop
  | .flush => False
  | .lose loss => loss ≠ .revokedTokens
  | .restart => state.IsDurable
  | _ => True

namespace State

theorem IsDurable.of_changes {state after : State} (durable : state.IsDurable)
    (setup : after.setup = state.setup) {now : Nat}
    (changes : Stores.Changes now state.site.stores after.site.stores) : after.IsDurable where
  setup := setup ▸ durable.setup
  backing := changes.backing.trans durable.backing
  place := by
    rw [setup, changes.path]
    exact durable.place

theorem restart_changes {state : State} (durable : state.IsDurable) (now : Nat) :
    Stores.Changes now state.site.stores state.restart.1.site.stores := by
  obtain ⟨path, inFile, leads⟩ := durable.place
  unfold restart
  simp only
  split
  next => exact Stores.withDatabase_changes now rfl rfl
  next reopened opens =>
    obtain ⟨samePath, sameTable⟩ := Database.reopened_revokedTokens leads inFile opens
    refine ⟨durable.setup.trans durable.backing.symm, samePath.trans inFile.symm, ?_⟩
    intro register kept
    simp only [Stores.entries?, durable.backing] at kept
    obtain ⟨table, present, rfl⟩ := Option.map_eq_some_iff.mp kept
    refine ⟨table.register, ?_, .keep⟩
    simp only [Stores.entries?, freshStores, durable.setup, sameTable table present, Option.map_some]

@[simp] theorem step_setup (state : State) (operation : Operation) :
    (state.step operation).1.setup = state.setup := by
  cases operation with
  | restart =>
    show state.restart.1.setup = state.setup
    unfold restart
    simp only
    split <;> rfl
  | _ => rfl

/-- What a step does to the revocations that are kept, at the time at which it reads the clock. -/
theorem step_changes {state : State} {operation : Operation} {now : Nat}
    (retains : operation.Retains state)
    (clock : ∀ reading, operation.reading? = some reading → reading = now) :
    Stores.Changes now state.site.stores (state.step operation).1.site.stores := by
  have same := Stores.Changes.refl state.site.stores now
  cases operation with
  | revoke token expiry => exact Stores.revoke_changes state.site.stores token expiry now
  | isRevoked token time =>
    cases clock time rfl
    exact Stores.isRevoked_changes state.site.stores token now
  | purge time =>
    cases clock time rfl
    exact Stores.purge_changes state.site.stores now
  | cleanUp time =>
    cases clock time rfl
    show Stores.Changes now _ (state.site.stores.cleanUp now).1
    rw [Stores.cleanUp_fst]
    exact Stores.purge_changes state.site.stores now
  | validate headers time =>
    cases clock time rfl
    exact Session.validate_changes state.setup.policy.secret state.site.stores headers now
  | validateToken token time =>
    cases clock time rfl
    exact Session.validateToken_changes state.setup.policy.secret state.site.stores token now
  | logout headers time =>
    cases clock time rfl
    exact Session.logout_changes state.setup.policy.secret state.site.stores headers now
  | recheck session time =>
    cases clock time rfl
    exact Session.recheck_changes state.site.stores session now
  | request moment asked =>
    exact Endpoint.handle_changes clock state.site asked
  | createAccount email displayName passwordHash =>
    obtain ⟨accounts, written⟩ :=
      state.site.stores.database.createAccount_frame email displayName passwordHash
    show Stores.Changes now _ { state.site.stores with
      database := (state.site.stores.database.createAccount email displayName passwordHash).1 }
    rw [written]
    exact Stores.withDatabase_changes now rfl rfl
  | deleteAccount id =>
    obtain ⟨accounts, written⟩ := state.site.stores.database.deleteAccount_frame id
    show Stores.Changes now _ { state.site.stores with
      database := (state.site.stores.database.deleteAccount id).1 }
    rw [written]
    exact Stores.withDatabase_changes now rfl rfl
  | lose loss =>
    cases loss with
    | revokedTokens => exact absurd rfl retains
    | accounts => exact Stores.withDatabase_changes now rfl rfl
    | connections => exact Stores.withDatabase_changes now rfl rfl
  | putPerson principal => exact same.frame rfl rfl rfl
  | removePerson id => exact same.frame rfl rfl rfl
  | fail part =>
    cases part with
    | revocations => exact same.frame rfl rfl rfl
    | people => exact same.frame rfl rfl rfl
  | repair part =>
    cases part with
    | revocations => exact same.frame rfl rfl rfl
    | people => exact same.frame rfl rfl rfl
  | restart => exact restart_changes retains now
  | flush => exact absurd retains id
  | size | rows | issue | accountById | accountByEmail | accountPrincipal | files => exact same

end State

theorem Operation.Retains.of_changes {state after : State} {operation : Operation}
    (retains : operation.Retains state) (setup : after.setup = state.setup) {now : Nat}
    (changes : Stores.Changes now state.site.stores after.site.stores) :
    operation.Retains after := by
  cases operation with
  | restart => exact State.IsDurable.of_changes retains setup changes
  | flush => exact retains
  | lose loss => exact retains
  | _ => trivial

end Server

end SessionServer
