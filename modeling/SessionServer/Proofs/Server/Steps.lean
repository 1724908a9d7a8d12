import SessionServer.Proofs.Database.Current
import SessionServer.Proofs.Endpoint.Steps

/-!
What one operation does to a server that was started on its database. Each operation puts one call to the
register at most and changes the table of accounts in one way at most; a restart finds the database in a
file again as it was, and otherwise begins with a new one.
-/

namespace SessionServer.Server
open Revocation (Call)
open Session (Stores checkCall? logoutCall?)

/-- The call that an operation puts to the register. -/
def Operation.call? (secret : Bytes) : Operation → Option Call
  | .revoke token expiry => some (.revoke token expiry)
  | .isRevoked token now => some (.ask token now)
  | .purge now | .cleanUp now => some (.purge now)
  | .flush => some .flush
  | .validate headers now => checkCall? headers now
  | .validateToken token now => some (.ask token now)
  | .logout headers now => logoutCall? secret headers now
  | .recheck session now => some (.ask session.token now)
  | .request moment asked => Endpoint.call? secret moment asked
  | _ => none

/-- Whether an operation puts its call to the register and does nothing else to the stores, but that a
question may be counted. -/
def Operation.OnlyCalls : Operation → Prop
  | .revoke _ _ | .isRevoked _ _ | .purge _ | .cleanUp _ | .flush | .validate _ _ | .validateToken _ _
  | .logout _ _ | .recheck _ _ => True
  | _ => False

/-- The id of the account that an operation deletes. -/
def Operation.deleted? : Operation → Option Int
  | .deleteAccount id => some id
  | _ => none

/-- Whether an operation loses the table of revocations. -/
def Operation.Loses : Operation → Prop
  | .lose .revokedTokens => True
  | _ => False

/-- Whether an operation empties the register of a server: a flush, or a restart after which it is not
there again. -/
def Operation.Empties (state : State) : Operation → Prop
  | .flush => True
  | .restart => ¬ state.IsDurable
  | _ => False

namespace State

/-- A server that works on the database which its path leads to, by its own policy. -/
structure IsSettled (state : State) : Prop where
  policy : state.site.policy = state.setup.policy
  backing : state.site.stores.backing = state.setup.backing
  current : state.site.stores.database.tables.IsCurrent
  place : state.site.stores.database.IsAt state.setup.directory state.setup.path

/-- Whether the database of a server is kept in a file. -/
def IsOnFile (state : State) : Prop := state.site.stores.database.path ≠ none

/-- Whether a property holds of the accounts of a server, as long as their table is there. -/
def AccountsAre (state : State) (P : Accounts → Prop) : Prop :=
  ∀ accounts, state.site.stores.database.tables.accounts = some accounts → P accounts

end State

/-- Whether the table of accounts outlives an operation: a restart finds it again in a file only. -/
def Operation.KeepsAccounts (state : State) : Operation → Prop
  | .restart => state.IsOnFile
  | _ => True

namespace State

variable {state : State} {operation : Operation}

theorem isSettled_of_start {setup : Setup} {files remaining : Database.Files}
    (started : start setup files = (remaining, .ok state)) : state.IsSettled := by
  unfold start at started
  split at started
  next => cases started
  next database opens =>
    cases started
    exact ⟨rfl, rfl, Database.isCurrent_of_openAt opens, Database.isAt_of_openAt opens⟩

theorem setup_of_start {setup : Setup} {files remaining : Database.Files}
    (started : start setup files = (remaining, .ok state)) : state.setup = setup := by
  unfold start at started
  split at started
  next => cases started
  next =>
    cases started
    rfl

theorem people_of_start {setup : Setup} {files remaining : Database.Files}
    (started : start setup files = (remaining, .ok state)) :
    state.site.stores.people = setup.people := by
  unfold start at started
  split at started
  next => cases started
  next =>
    cases started
    rfl

/-- An operation that only calls the register may count a question besides, and does nothing else. -/
theorem step_of_onlyCalls (state : State) (only : operation.OnlyCalls) :
    ∃ people, people.uncounted = state.site.stores.people.uncounted ∧
      (state.step operation).1 = state.withStores
        { state.site.stores.receive (operation.call? state.setup.policy.secret) with
          people := people } := by
  have called {stores : Stores} {call : Option Call} (same : stores = state.site.stores.receive call) :
      ∃ people, people.uncounted = state.site.stores.people.uncounted ∧
        state.withStores stores =
          state.withStores { state.site.stores.receive call with people := people } :=
    ⟨_, congrArg Session.People.uncounted (state.site.stores.receive_people call), congrArg _ same⟩
  cases operation with
  | revoke token expiry => exact called (state.site.stores.revoke_fst token expiry)
  | isRevoked token now => exact called (state.site.stores.isRevoked_fst token now)
  | purge now => exact called (state.site.stores.purge_fst now)
  | cleanUp now =>
    exact called ((state.site.stores.cleanUp_fst now).trans (state.site.stores.purge_fst now))
  | flush => exact called state.site.stores.flush_fst
  | logout headers now => exact called (Session.logout_fst _ state.site.stores headers now)
  | recheck session now =>
    exact called ((Session.recheck_fst state.site.stores session now).trans
      (state.site.stores.isRevoked_fst session.token now))
  | validate headers now =>
    obtain ⟨people, counted, same⟩ :=
      Session.validate_fst state.setup.policy.secret state.site.stores headers now
    exact ⟨people, counted, congrArg state.withStores same⟩
  | validateToken token now =>
    obtain ⟨people, counted, same⟩ :=
      Session.validateToken_fst state.setup.policy.secret state.site.stores token now
    exact ⟨people, counted, congrArg state.withStores same⟩
  | _ => exact only.elim

/-- What an operation does to the stores, short of a restart. -/
theorem step_stores (policy : state.site.policy = state.setup.policy) (running : operation ≠ .restart) :
    state.site.stores.Step (operation.call? state.setup.policy.secret) operation.deleted?
      operation.Loses (state.step operation).1.site.stores := by
  have called (only : operation.OnlyCalls) :
      state.site.stores.Step (operation.call? state.setup.policy.secret) operation.deleted?
        operation.Loses (state.step operation).1.site.stores := by
    obtain ⟨people, counted, same⟩ := state.step_of_onlyCalls only
    rw [same]
    exact Stores.step_receive counted _
  cases operation with
  | restart => exact absurd rfl running
  | request moment asked =>
    have step := (Endpoint.handle_step state.site moment asked).stores
    rw [policy] at step
    exact step
  | createAccount email displayName passwordHash =>
    exact state.site.stores.step_edits (Database.createAccount_edits _ _ _ _)
  | deleteAccount id => exact state.site.stores.step_edits (Database.deleteAccount_edits _ id)
  | lose loss =>
    cases loss with
    | accounts => exact state.site.stores.step_edits (Database.edits_dropAccounts _)
    | connections => exact Stores.step_of_same rfl rfl ⟨rfl, rfl⟩ rfl id
    | revokedTokens => exact state.site.stores.step_dropRevokedTokens
  | fail part =>
    cases part with
    | revocations => exact Stores.step_of_same rfl rfl ⟨rfl, rfl⟩ rfl id
    | people =>
      exact Stores.step_of_same rfl rfl ⟨rfl, rfl⟩ rfl (congrArg (Operation.setUnreachable · true))
  | repair part =>
    cases part with
    | revocations => exact Stores.step_of_same rfl rfl ⟨rfl, rfl⟩ rfl id
    | people =>
      exact Stores.step_of_same rfl rfl ⟨rfl, rfl⟩ rfl (congrArg (Operation.setUnreachable · false))
  | putPerson principal =>
    exact Stores.step_of_same rfl rfl ⟨rfl, rfl⟩ rfl (congrArg (Operation.put · principal))
  | removePerson id =>
    exact Stores.step_of_same rfl rfl ⟨rfl, rfl⟩ rfl (congrArg fun people => (Operation.remove people id).1)
  | size | rows | issue | accountById | accountByEmail | accountPrincipal | files =>
    exact state.site.stores.step_refl
  | _ => exact called trivial

/-- A restart ends with a closed database, or with one that was opened again. -/
theorem restart_cases (state : State) :
    (∃ files, state.restart.1 =
      { state.withDatabase state.site.stores.database.close with files := files }) ∨
    ∃ files database,
      Database.openAt state.savedFiles state.setup.directory state.setup.path =
        (files, .ok database) ∧
      state.restart.1 =
        { state with
          files := files
          site :=
            { policy := state.setup.policy
              stores :=
                { freshStores state.setup database with
                  unreachable := state.site.stores.unreachable
                  people := state.site.stores.people } } } := by
  unfold restart
  simp only
  split
  next files _ _ => exact .inl ⟨files, rfl⟩
  next files database opens => exact .inr ⟨files, database, opens, rfl⟩

namespace IsSettled
variable (settled : state.IsSettled)
include settled

theorem isDurable_iff : state.IsDurable ↔ state.setup.backing = .database ∧ state.IsOnFile := by
  constructor
  · intro durable
    obtain ⟨path, inFile, -⟩ := durable.place
    exact ⟨durable.setup, fun absent => Option.some_ne_none path (inFile.symm.trans absent)⟩
  · rintro ⟨inDatabase, onFile⟩
    obtain ⟨path, inFile⟩ := Option.ne_none_iff_exists'.mp onFile
    exact ⟨inDatabase, settled.backing.trans inDatabase, path, inFile, settled.place.leadsTo inFile⟩

/-- The tables after a restart: those before it if they are in a file or the restart fails, else new
ones. -/
theorem restart_tables :
    state.restart.1.site.stores.database.path = state.site.stores.database.path ∧
      (state.restart.1.site.stores.database.tables = state.site.stores.database.tables ∨
        ¬ state.IsOnFile ∧ state.restart.1.site.stores.database.tables = .new) := by
  rcases state.restart_cases with ⟨files, same⟩ | ⟨files, database, opens, same⟩
  · rw [same]
    exact ⟨rfl, .inl rfl⟩
  · rw [same]
    show database.path = _ ∧ (database.tables = _ ∨ _ ∧ database.tables = _)
    cases kept : state.site.stores.database.path with
    | some path =>
      obtain ⟨samePath, sameTables⟩ :=
        Database.reopened_of_file settled.place settled.current kept opens
      exact ⟨samePath.trans kept, .inl sameTables⟩
    | none =>
      obtain ⟨samePath, new, -⟩ := Database.reopened_of_memory settled.place kept opens
      exact ⟨samePath, .inr ⟨fun onFile => onFile kept, new⟩⟩

theorem restart_entries :
    state.restart.1.site.stores.entries? = state.site.stores.entries? ∨
      ¬ state.IsDurable ∧ state.restart.1.site.stores.entries? = some [] := by
  rcases state.restart_cases with ⟨files, same⟩ | ⟨files, database, opens, same⟩
  · rw [same]
    exact .inl rfl
  · have tables := settled.restart_tables.2
    rw [same] at tables ⊢
    rw [settled.isDurable_iff]
    simp only [Stores.entries?, freshStores, settled.backing] at tables ⊢
    cases kept : state.setup.backing with
    | memory => exact .inr ⟨fun durable => Revocation.Backing.noConfusion durable.1, rfl⟩
    | database =>
      rcases tables with sameTables | ⟨inMemory, new⟩
      · exact .inl (by rw [sameTables])
      · exact .inr ⟨fun durable => inMemory durable.2, by rw [new]; rfl⟩

@[simp] theorem step_path :
    (state.step operation).1.site.stores.database.path = state.site.stores.database.path := by
  by_cases restarted : operation = .restart
  · rw [restarted]
    exact settled.restart_tables.1
  · exact (step_stores settled.policy restarted).beside.path

/-- An operation leaves a server on the database that its path leads to. -/
theorem step : (state.step operation).1.IsSettled := by
  have place : (state.step operation).1.site.stores.database.IsAt
      (state.step operation).1.setup.directory (state.step operation).1.setup.path := by
    rw [step_setup]
    exact settled.place.of_path settled.step_path
  by_cases restarted : operation = .restart
  · subst restarted
    have tables := settled.restart_tables.2
    refine ⟨?_, ?_, ?_, place⟩
    · show state.restart.1.site.policy = state.restart.1.setup.policy
      rcases state.restart_cases with ⟨files, same⟩ | ⟨files, database, -, same⟩
      · rw [same]
        exact settled.policy
      · rw [same]
    · show state.restart.1.site.stores.backing = state.restart.1.setup.backing
      rcases state.restart_cases with ⟨files, same⟩ | ⟨files, database, -, same⟩
      · rw [same]
        exact settled.backing
      · rw [same]
        rfl
    · show state.restart.1.site.stores.database.tables.IsCurrent
      rcases tables with same | ⟨-, new⟩
      · rw [same]
        exact settled.current
      · rw [new]
        exact ⟨1, rfl, Int.le_refl 1⟩
  · have stores := step_stores settled.policy restarted
    obtain ⟨version, written, upToDate⟩ := settled.current
    refine ⟨?_, ?_, ⟨version, stores.version.trans written, upToDate⟩, place⟩
    · rw [step_setup, ← settled.policy]
      cases operation with
      | restart => exact absurd rfl restarted
      | request moment asked => exact (Endpoint.handle_step state.site moment asked).policy
      | _ => rfl
    · rw [step_setup, stores.backing, settled.backing]

theorem run (operations : List Operation) : (state.run operations).1.IsSettled := by
  induction operations generalizing state with
  | nil => exact settled
  | cons operation rest ih => exact ih settled.step

@[simp] theorem step_backing :
    (state.step operation).1.site.stores.backing = state.site.stores.backing := by
  rw [settled.step.backing, step_setup, settled.backing]

theorem step_people (asked : state.site.stores.people = .database) :
    (state.step operation).1.site.stores.people = .database := by
  by_cases restarted : operation = .restart
  · subst restarted
    show state.restart.1.site.stores.people = _
    rcases state.restart_cases with ⟨files, same⟩ | ⟨files, database, -, same⟩
    · rw [same]
      exact asked
    · rw [same]
      exact asked
  · exact (step_stores settled.policy restarted).people asked

theorem step_isOnFile : (state.step operation).1.IsOnFile ↔ state.IsOnFile := by
  rw [IsOnFile, settled.step_path, IsOnFile]

/-- A server stays settled when a call is put to its register. -/
theorem receive (call : Option Call) :
    { state with site := { state.site with stores := state.site.stores.receive call } }.IsSettled := by
  obtain ⟨memory, revokedTokens, framed⟩ := state.site.stores.receive_frame call
  rw [framed]
  obtain ⟨version, written, upToDate⟩ := settled.current
  exact ⟨settled.policy, settled.backing, ⟨version, written, upToDate⟩, settled.place.of_path rfl⟩

/-- Which operations the accounts outlive does not change while a server runs. -/
theorem step_keepsAccounts {other : Operation} :
    other.KeepsAccounts (state.step operation).1 ↔ other.KeepsAccounts state := by
  cases other with
  | restart => exact settled.step_isOnFile
  | _ => exact Iff.rfl

theorem run_keepsAccounts {other : Operation} (operations : List Operation) :
    other.KeepsAccounts (state.run operations).1 ↔ other.KeepsAccounts state := by
  induction operations generalizing state with
  | nil => exact Iff.rfl
  | cons operation rest ih => exact (ih settled.step).trans settled.step_keepsAccounts

/-- Which operations empty the register does not change while a server runs. -/
theorem step_empties {other : Operation} :
    other.Empties (state.step operation).1 ↔ other.Empties state := by
  cases other with
  | restart =>
    show ¬ _ ↔ ¬ _
    rw [settled.step.isDurable_iff, settled.isDurable_iff, step_setup, settled.step_isOnFile]
  | _ => exact Iff.rfl

theorem spared_step (operation : Operation) {operations : List Operation}
    (spared : ∀ other ∈ operations, ¬ other.Empties state) :
    ∀ other ∈ operations, ¬ other.Empties (state.step operation).1 := by
  intro other member empties
  exact spared other member (settled.step_empties.mp empties)

theorem spared_run {before operations : List Operation}
    (spared : ∀ other ∈ operations, ¬ other.Empties state) :
    ∀ other ∈ operations, ¬ other.Empties (state.run before).1 := by
  induction before generalizing state with
  | nil => exact spared
  | cons operation rest ih => exact ih settled.step (settled.spared_step operation spared)

/-- The entries after an operation: those that its call leaves, none after the loss of their table, and
an empty register where the operation empties it. -/
theorem step_entries (operation : Operation) :
    (state.step operation).1.site.stores.entries? =
        (state.site.stores.receive (operation.call? state.setup.policy.secret)).entries? ∨
      (state.step operation).1.site.stores.entries? = none ∨
      operation.Empties state ∧ (state.step operation).1.site.stores.entries? = some [] := by
  by_cases restarted : operation = .restart
  · subst restarted
    exact settled.restart_entries.imp_right .inr
  · exact (step_stores settled.policy restarted).entries.imp_right fun lost => .inl lost.2

theorem run_people (asked : state.site.stores.people = .database) (operations : List Operation) :
    (state.run operations).1.site.stores.people = .database := by
  induction operations generalizing state with
  | nil => exact asked
  | cons operation rest ih => exact ih settled.step (settled.step_people asked)

/-- The accounts after an operation come from those before it, unless a database in memory is opened
anew. -/
theorem step_accounts {changed : Accounts}
    (present : (state.step operation).1.site.stores.database.tables.accounts = some changed) :
    (∃ accounts, state.site.stores.database.tables.accounts = some accounts ∧
      Accounts.Change operation.deleted? accounts changed) ∨
    operation = .restart ∧ ¬ state.IsOnFile ∧ changed = .empty := by
  by_cases restarted : operation = .restart
  · subst restarted
    have tables : state.restart.1.site.stores.database.tables.accounts = some changed := present
    rcases settled.restart_tables.2 with same | ⟨inMemory, new⟩
    · rw [same] at tables
      exact .inl ⟨changed, tables, .keep⟩
    · rw [new] at tables
      exact .inr ⟨rfl, inMemory, (Option.some.inj tables).symm⟩
  · exact .inl ((step_stores settled.policy restarted).accounts changed present)

/-- What every change of the table of accounts in a run preserves holds after the run, if it did before.
It has to hold of a new table where a database in memory is opened anew. -/
theorem run_accounts {P : Accounts → Prop} {operations : List Operation}
    (preserved : ∀ operation ∈ operations, ∀ accounts changed,
      Accounts.Change operation.deleted? accounts changed → P accounts → P changed)
    (anew : ∀ operation ∈ operations, operation.KeepsAccounts state ∨ P .empty)
    (before : state.AccountsAre P) : (state.run operations).1.AccountsAre P := by
  induction operations generalizing state with
  | nil => exact before
  | cons operation rest ih =>
    obtain ⟨anewHere, anewLater⟩ := List.forall_mem_cons.mp anew
    obtain ⟨preservedHere, preservedLater⟩ := List.forall_mem_cons.mp preserved
    refine ih settled.step preservedLater ?_ ?_
    · intro other member
      exact (anewLater other member).imp_left settled.step_keepsAccounts.mpr
    · intro changed next
      rcases settled.step_accounts next with ⟨old, there, change⟩ | ⟨rfl, inMemory, rfl⟩
      · exact preservedHere old changed change (before old there)
      · exact anewHere.resolve_left inMemory

end IsSettled

end State

end SessionServer.Server
