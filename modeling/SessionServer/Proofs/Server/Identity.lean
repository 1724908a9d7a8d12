import SessionServer.Proofs.Server.SignIn

/-!
Whose session a token is. A token that was issued at a login stands for the account that logged in as long
as that account is there, and for no account ever after.
-/

namespace SessionServer

namespace Session

variable {secret : Bytes} {stores : Stores} {token : String} {now : Nat} {principal : Principal}
  {issuedAt duration : Nat} {tokenId : String} {issued : Token.Issued}

/-- Who passes with a token that was issued is who it was issued for, and the database has an account with
that id then. -/
theorem of_validateToken_issued {session : Authenticated} (asked : stores.people = .database)
    (issues : Token.issue secret principal issuedAt duration tokenId = .ok issued)
    (good : (validateToken secret stores issued.token now).2 = .ok session) :
    session.principal = principal ∧
      ∃ account, stores.database.accountById principal.id = .ok (some account) := by
  rw [validateToken_snd] at good
  obtain ⟨-, claims, known, read, found, rfl⟩ := verdict_eq_ok_iff.mp good
  cases Token.eq_of_verify?_issue issues (Token.verify?_of_read read).1
  refine ⟨rfl, ?_⟩
  rw [Stores.isRevoked_fst, Stores.principal_receive asked, Stores.accountPrincipal] at found
  cases looked : stores.database.accountById principal.id with
  | error => simp [Token.Claims.ofSession, looked] at found
  | ok account =>
    cases account with
    | none => simp [Token.Claims.ofSession, looked] at found
    | some account => exact ⟨account, rfl⟩

end Session

namespace Server.State
open Text.Decimal (maxWord IsSigned)

variable {state : State} {account : Account}

/-- A successful login begins a session of an account that is there. -/
theorem of_login {moment : Endpoint.Moment} {asked : Http.Request} {response : Http.Response}
    (policy : state.site.policy = state.setup.policy)
    (asks : asked.resource? = some .session) (posted : asked.method = "POST")
    (answered : (state.step (.request moment asked)).2 = .response response)
    (succeeded : response.status = 200) :
    ∃ issued account accounts start,
      response = Endpoint.Login.Begun.response { issued := issued, user := account.principal }
        state.setup.policy.secureCookies ∧
      moment.clock = some start ∧
      Token.issue state.setup.policy.secret account.principal start
        state.setup.policy.sessionLifetime moment.tokenId = .ok issued ∧
      state.site.stores.database.accounts = .ok accounts ∧ account ∈ accounts.rows := by
  have handled : (Endpoint.handle state.site moment asked).2 = response := Outcome.response.inj answered
  rw [Endpoint.handle_login asks posted] at handled
  cases granted : (state.site.logins.grant asked.client).2 with
  | false =>
    rw [granted, if_neg Bool.false_ne_true] at handled
    rw [← handled] at succeeded
    cases succeeded
  | true =>
    rw [granted, if_pos rfl] at handled
    have answers : Endpoint.Login.answer state.site moment asked = response := handled
    subst answers
    obtain ⟨slots, begun, -, begins, same⟩ := Endpoint.Login.answer_of_status succeeded
    obtain ⟨account, start, good, reads, user, issues⟩ := Endpoint.Login.begin?_eq_ok_iff.mp begins
    obtain ⟨-, looked, -⟩ := Endpoint.Login.authenticate_eq_ok_iff.mp good
    obtain ⟨accounts, there, found⟩ := Database.accountByEmail_eq_ok_iff.mp looked
    rw [policy] at same issues
    refine ⟨begun.issued, account, accounts, start, ?_, reads, issues, there,
      (Accounts.byEmail?_eq_some found).1⟩
    rw [same, ← user]

/-- A server that asks its database for accounts, and gives the id of an account to no other one. -/
structure Guards (state : State) (account : Account) : Prop where
  settled : state.IsSettled
  people : state.site.stores.people = .database
  reserves : state.AccountsAre (·.Reserves account)

theorem Guards.run (guards : state.Guards account) {operations : List Operation}
    (kept : ∀ operation ∈ operations, operation.KeepsAccounts state) :
    (state.run operations).1.Guards account where
  settled := guards.settled.run operations
  people := guards.settled.run_people guards.people operations
  reserves := guards.settled.run_reserves kept guards.reserves

/-- After a run in which the account was deleted, its id is retired. -/
theorem Guards.run_retired (guards : state.Guards account) {first rest : List Operation} {found : Bool}
    (kept : ∀ operation ∈ first ++ .deleteAccount account.id :: rest, operation.KeepsAccounts state)
    (deleted : ((state.run first).1.step (.deleteAccount account.id)).2 = .truth found) :
    (state.run (first ++ .deleteAccount account.id :: rest)).1.AccountsAre (·.Retired account.id) := by
  obtain ⟨keptFirst, keptLater⟩ := List.forall_mem_append.mp kept
  obtain ⟨-, keptRest⟩ := List.forall_mem_cons.mp keptLater
  have guardsFirst := guards.run keptFirst
  rw [run_append, run_cons]
  refine guardsFirst.settled.step.run_retired ?_ (retired_of_deleteAccount deleted guardsFirst.reserves)
  intro operation member
  exact guardsFirst.settled.step_keepsAccounts.mpr
    ((guards.settled.run_keepsAccounts first).mpr (keptRest operation member))

section Issued
variable {issuedAt duration now : Nat} {tokenId : String} {issued : Token.Issued}
  {headers : Http.Headers} (asked : state.site.stores.people = .database)
  (issues : Token.issue state.setup.policy.secret account.principal issuedAt duration tokenId =
    .ok issued)
  (presented : Credential.presented? headers = some issued.token)
include asked issues presented

/-- Who is authenticated with a token that was issued for an account has its id, and is as the account. -/
theorem of_authenticated {session : Session.Authenticated}
    (authenticated : (state.step (.validate headers now)).2 = .authenticated session) :
    session.principal = account.principal ∧
      ∃ row, state.site.stores.database.accountById account.id = .ok (some row) := by
  obtain ⟨_, good, observed⟩ := Operation.of_outcome authenticated nofun
  cases observed
  rw [Session.validate_of_presented presented] at good
  exact Session.of_validateToken_issued asked issues good

/-- While the id of its account is retired, nobody is authenticated with a token. -/
theorem not_authenticated_of_retired (retired : state.AccountsAre (·.Retired account.id))
    (session : Session.Authenticated) :
    (state.step (.validate headers now)).2 ≠ .authenticated session := by
  intro authenticated
  obtain ⟨-, row, looked⟩ := of_authenticated asked issues presented authenticated
  obtain ⟨accounts, there, found⟩ := Database.accountById_eq_ok_iff.mp looked
  exact Option.some_ne_none row (found.symm.trans (retired.of_eq_ok there).byId?)

theorem unknown_of_retired (retired : state.AccountsAre (·.Retired account.id))
    (signed : IsSigned account.id) (unexpired : now < issued.expiresAt)
    (unrevoked : (state.step (.isRevoked issued.token now)).2 = .truth false)
    (healthy : ∃ looked, (state.step (.accountById account.id)).2 = .account looked) :
    (state.step (.validate headers now)).2 = .sessionError .unknownPrincipal := by
  obtain ⟨_, answer, same⟩ := Operation.of_outcome unrevoked nofun
  cases same
  obtain ⟨_, answered⟩ := healthy
  obtain ⟨accounts, there, -⟩ := Database.accountById_eq_ok_iff.mp (accountById_of_step answered)
  have looked : state.site.stores.database.accountById account.id = .ok none :=
    Database.accountById_eq_ok_iff.mpr ⟨accounts, there, (retired.of_eq_ok there).byId?⟩
  have checked := Session.validateToken_of_issue asked issues signed unexpired answer looked
  show Operation.outcome .sessionError .authenticated (Session.validate _ _ headers now).2 = _
  rw [Session.validate_of_presented presented, checked]
  rfl

end Issued

/-- Who is authenticated with a token is the account that it was issued for, and this account is there. -/
theorem Guards.of_authenticated {issuedAt duration now : Nat} {tokenId : String} {issued : Token.Issued}
    {headers : Http.Headers} {session : Session.Authenticated} (guards : state.Guards account)
    (issues : Token.issue state.setup.policy.secret account.principal issuedAt duration tokenId =
      .ok issued)
    (presented : Credential.presented? headers = some issued.token)
    (authenticated : (state.step (.validate headers now)).2 = .authenticated session) :
    session.principal = account.principal ∧
      (state.step (.accountById account.id)).2 = .account (some account) := by
  obtain ⟨same, row, looked⟩ := State.of_authenticated guards.people issues presented authenticated
  obtain ⟨accounts, there, found⟩ := Database.accountById_eq_ok_iff.mp looked
  obtain ⟨member, named⟩ := Accounts.byId?_eq_some found
  obtain rfl := (guards.reserves.of_eq_ok there).only row member named
  exact ⟨same, congrArg (Operation.outcome .databaseError .account) looked⟩

/-- Who logs in to a server with a new database gets a token of an account that is there. Whoever is
authenticated with this token later is that account, and the account is still there and the same. After
the account was deleted, nobody is authenticated with the token, whatever accounts are created; if the
token is neither revoked nor expired, it is found to be nobody's. -/
theorem session_stays_with_account {setup : Setup} {files remaining : Database.Files}
    {before : List Operation} {moment : Endpoint.Moment} {asked : Http.Request}
    {response : Http.Response} (started : start setup files = (remaining, .ok state))
    (people : setup.people = .database) (new : state.site.stores.database.tables = .new)
    (asks : asked.resource? = some .session) (posted : asked.method = "POST")
    (answered : ((state.run before).1.step (.request moment asked)).2 = .response response)
    (succeeded : response.status = 200) :
    ∃ issued account start shown,
      account.principal.Shows shown ∧
      response =
        { status := 200, contentType := some "application/json"
          setCookie :=
            some ("session_token=" ++ issued.token ++ "; HttpOnly; SameSite=Strict; Path=/; Max-Age=" ++
              toString issued.duration ++ (if state.setup.policy.secureCookies then "; Secure" else ""))
          body :=
            "\x7b\"token\":\"" ++ issued.token ++ "\",\"expires_at\":" ++ toString issued.expiresAt ++
              ",\"user\":" ++ shown ++ "\x7d" } ∧
      moment.clock = some start ∧
      Token.issue state.setup.policy.secret account.principal start
        state.setup.policy.sessionLifetime moment.tokenId = .ok issued ∧
      ((state.run before).1.step (.accountById account.id)).2 = .account (some account) ∧
      ∀ after : List Operation, (∀ operation ∈ after, operation.KeepsAccounts state) →
        let loggedIn := ((state.run before).1.step (.request moment asked)).1
        let later := (loggedIn.run after).1
        ∀ headers now, Credential.presented? headers = some issued.token →
          (∀ session, (later.step (.validate headers now)).2 = .authenticated session →
            session.principal = account.principal ∧
            (later.step (.accountById account.id)).2 = .account (some account)) ∧
          ∀ first rest found, after = first ++ .deleteAccount account.id :: rest →
            ((loggedIn.run first).1.step (.deleteAccount account.id)).2 = .truth found →
            (∀ session, (later.step (.validate headers now)).2 ≠ .authenticated session) ∧
            (now < issued.expiresAt →
              (later.step (.isRevoked issued.token now)).2 = .truth false →
              (∃ looked, (later.step (.accountById account.id)).2 = .account looked) →
              (later.step (.validate headers now)).2 = .sessionError .unknownPrincipal) := by
  have settled := isSettled_of_start started
  have settledBefore := settled.run before
  have setupBefore := run_setup state before
  obtain ⟨issued, account, accounts, start, same, reads, issues, there, member⟩ :=
    of_login settledBefore.policy asks posted answered succeeded
  rw [setupBefore] at same issues
  have sound : (state.run before).1.AccountsAre Accounts.IsSound :=
    settled.run_isSound (isSound_of_empty (congrArg Database.Tables.accounts new)) before
  have guards : (state.run before).1.Guards account := by
    refine ⟨settledBefore, settled.run_people ((people_of_start started).trans people) before, ?_⟩
    intro others present
    cases present.symm.trans (Database.accounts_eq_ok_iff.mp there).2
    exact (sound.of_eq_ok there).reserves member
  rw [Endpoint.Login.Begun.response_eq _ _ (Token.flatMap_writeChar_of_issue issues)] at same
  refine ⟨issued, account, start, _, account.principal.shows_document, same, reads, issues, ?_, ?_⟩
  · have looked : (state.run before).1.site.stores.database.accountById account.id =
        .ok (some account) :=
      Database.accountById_eq_ok_iff.mpr ⟨accounts, there, (sound.of_eq_ok there).byId? member⟩
    exact congrArg (Operation.outcome .databaseError .account) looked
  intro after kept loggedIn later headers now presented
  have guardsIn : loggedIn.Guards account := by
    have kept : ∀ operation ∈ [Operation.request moment asked],
        operation.KeepsAccounts (state.run before).1 := by
      intro operation one
      cases List.mem_singleton.mp one
      trivial
    exact guards.run kept
  have keptIn : ∀ operation ∈ after, operation.KeepsAccounts loggedIn := by
    intro operation one
    exact settledBefore.step_keepsAccounts.mpr
      ((settled.run_keepsAccounts before).mpr (kept operation one))
  have guardsLater : later.Guards account := guardsIn.run keptIn
  have setupLater : later.setup = state.setup := by
    rw [run_setup, step_setup, setupBefore]
  have issuesLater := setupLater ▸ issues
  refine ⟨fun session => guardsLater.of_authenticated issuesLater presented, ?_⟩
  rintro first rest found rfl deleted
  have retired : later.AccountsAre (·.Retired account.id) := guardsIn.run_retired keptIn deleted
  refine ⟨not_authenticated_of_retired guardsLater.people issuesLater presented retired, ?_⟩
  intro unexpired unrevoked healthy
  exact unknown_of_retired guardsLater.people issuesLater presented retired
    ((sound.of_eq_ok there).ids_signed account member) unexpired unrevoked healthy

/-- The account with the id 1 is deleted, and its address is taken again. -/
def takeover : List Operation :=
  [.deleteAccount 1, .createAccount "ada@example.org" "Eve" "no password"]

/-- Who has taken the address. -/
def newcomer : Account :=
  { id := 2, email := "ada@example.org", displayName := "Eve", passwordHash := "no password" }

theorem stores_of_takeover (state : State) :
    (state.run takeover).1.site.stores =
      { state.site.stores with
        database := ((state.site.stores.database.deleteAccount 1).1.createAccount "ada@example.org" "Eve"
          "no password").1 } := rfl

theorem knows_registered : registered.Knows registeredAccount where
  settled := (isSettled_of_start start_memorySetup).step
  sound := (isSettled_of_start start_memorySetup).step_isSound isSound_inMemory _
  member := by
    intro accounts present
    cases present.symm.trans (Database.accounts_eq_ok_iff.mp serves_registered.answered).2
    exact List.mem_singleton.mpr rfl

/-- The token of a deleted account is nobody's, although its address belongs to somebody else now. -/
theorem session_stays_with_account_inMemory :
    let loggedIn := (registered.step (.request firstMoment loginRequest)).1
    let later := (loggedIn.run takeover).1
    ∃ (issued : Token.Issued) (headers : Http.Headers) (shown : String),
      registeredAccount.principal.Shows shown ∧
      (registered.step (.request firstMoment loginRequest)).2 =
        .response
          { status := 200, contentType := some "application/json"
            setCookie :=
              some ("session_token=" ++ issued.token ++ "; HttpOnly; SameSite=Strict; Path=/; Max-Age=" ++
                toString issued.duration)
            body :=
              "\x7b\"token\":\"" ++ issued.token ++ "\",\"expires_at\":" ++ toString issued.expiresAt ++
                ",\"user\":" ++ shown ++ "\x7d" } ∧
      Credential.presented? headers = some issued.token ∧
      (later.step (.accountByEmail "Ada@Example.org")).2 = .account (some newcomer) ∧
      (later.step (.validate headers 1700000001)).2 = .sessionError .unknownPrincipal := by
  intro loggedIn later
  have short : signUp.password.length ≤ Endpoint.Registration.maxPasswordLength := by decide
  have setup : registered.setup = memorySetup := step_setup _ _
  have fits : 1700000000 + registered.setup.policy.sessionLifetime ≤ maxWord := by
    rw [setup]
    decide
  have reads : firstMoment.clock = some 1700000000 := rfl
  obtain ⟨begun, -, welcome⟩ := knows_registered.login_of_repeats rfl short
    (accountById_answers serves_registered.answered 1) repeats_loginRequest grant_registered reads fits
  have answered : ((inMemory.run [.request firstMoment registrationRequest]).1.step
      (.request firstMoment loginRequest)).2 = .response _ := welcome
  obtain ⟨issued, account, start, shown, shows, same, begins, issues, there, stays⟩ :=
    session_stays_with_account start_memorySetup rfl rfl repeats_loginRequest.asks rfl answered rfl
  have insecure : (if inMemory.setup.policy.secureCookies then "; Secure" else "") = "" := rfl
  rw [insecure, String.append_empty] at same
  obtain rfl : account = registeredAccount := by
    obtain ⟨accounts, found, looked⟩ := Database.accountById_eq_ok_iff.mp (accountById_of_step there)
    cases serves_registered.answered.symm.trans found
    exact List.mem_singleton.mp (Accounts.byId?_eq_some looked).1
  obtain ⟨visible, -, nonempty⟩ := Token.isVisible_of_issue issues
  obtain ⟨headers, -, presented⟩ := Credential.presented?_of_isVisible visible nonempty
  rw [String.ofList_toList] at presented
  obtain ⟨-, limiter, written⟩ := step_registrationRequest
  have stores : loggedIn.site.stores = registered.site.stores := stores_of_loginRequest
  have accounts : later.site.stores.database.accounts = .ok { rows := [newcomer], lastId := 2 } := by
    rw [show later.site.stores = _ from stores_of_takeover loggedIn, stores, written]
    rfl
  have register : later.site.stores.register = .ok [] := by
    rw [show later.site.stores = _ from stores_of_takeover loggedIn, stores, written]
    rfl
  have deleted : (loggedIn.step (.deleteAccount registeredAccount.id)).2 = .truth true := by
    have serves := serves_registered
    rw [← stores] at serves
    show Operation.outcome .databaseError .truth
      (loggedIn.site.stores.database.deleteAccount registeredAccount.id).2 = _
    rw [Database.deleteAccount_of_serves serves]
    rfl
  refine ⟨issued, headers, shown, shows, answered.trans (congrArg Outcome.response same), presented, ?_, ?_⟩
  · have taken : later.site.stores.database.accountByEmail "Ada@Example.org" =
        .ok (some newcomer) :=
      Database.accountByEmail_eq_ok_iff.mpr ⟨_, accounts, by decide +kernel⟩
    exact congrArg (Operation.outcome .databaseError .account) taken
  · have kept : ∀ operation ∈ takeover, operation.KeepsAccounts inMemory := by
      intro operation member
      rcases List.mem_cons.mp member with rfl | last
      · trivial
      · cases List.mem_singleton.mp last
        trivial
    have unexpired : 1700000001 < issued.expiresAt := by
      cases begins
      rw [(Token.issue_eq_ok_iff.mp issues).2]
      decide
    have unrevoked : (later.step (.isRevoked issued.token 1700000001)).2 = .truth false := by
      rw [step_isRevoked register, Revocation.Backing.isRevoked_snd]
      rfl
    exact ((stays takeover kept headers 1700000001 presented).2 [] _ true rfl deleted).2 unexpired
      unrevoked (accountById_answers accounts 1)

end Server.State

end SessionServer
