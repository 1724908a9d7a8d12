import SessionServer.Proofs.Credential.Cookie
import SessionServer.Proofs.Endpoint.Forms
import SessionServer.Proofs.Endpoint.Session
import SessionServer.Proofs.Password.Verify
import SessionServer.Proofs.Server.Accounts
import SessionServer.Proofs.Server.Logout

/-!
From a registration to a session. Who has registered can log in with the password that was chosen and
with every spelling of the address, and is known by the token of the login until the token expires.
-/

namespace SessionServer

namespace Endpoint
open Text (lowerAscii trim)

/-- A login that is posted with the password of a registration and with its address, in upper or lower
case and with any blanks around it. -/
structure Login.Repeats (form : Registration.Form) (request : Http.Request) : Prop where
  asks : request.resource? = some .session
  posted : request.method = "POST"
  credentials : ∃ slots, Http.JsonBody.read Login.record request = .ok slots ∧
    (Login.Form.ofSlots slots).password = form.password ∧
    lowerAscii (trim (Login.Form.ofSlots slots).email.toList) = lowerAscii (trim form.email.toList)

/-- A login is posted so by a form with the same password and the same address but for its case and the
blanks around it. -/
theorem Login.repeats_post {form : Registration.Form} {login : Login.Form}
    (short : (Utf8.encode login.document.write).length ≤ Http.JsonBody.maxLength)
    (password : login.password = form.password)
    (email : lowerAscii (trim login.email.toList) = lowerAscii (trim form.email.toList)) :
    Login.Repeats form (.post "/api/session" login.document) := by
  obtain ⟨slots, read, filled⟩ := Login.read_post login short
  have path : Http.Resource.ofPath? (Http.targetPath "/api/session") = some .session := by decide
  refine ⟨path, rfl, slots, read, ?_, ?_⟩
  · rw [filled, password]
  · rw [filled, email]

/-- A question for the session of a token, which is presented as the cookie that was set for it or behind
the bearer scheme. -/
structure Session.Asks (token cookie : String) (request : Http.Request) : Prop where
  asks : request.resource? = some .session
  got : request.method = "GET"
  sent : Credential.Cookie.SendsBack request.headers cookie ∨ Credential.Bears request.headers token

end Endpoint

namespace Server.State
open Text.Decimal (maxSigned maxWord IsSigned)

variable {state : State} {moment : Endpoint.Moment} {asked : Http.Request} {account : Account}

/-- A registration that succeeds has added the account that it was for, under the next id. -/
theorem of_registration {response : Http.Response} (asks : asked.resource? = some .users)
    (posted : asked.method = "POST")
    (answered : (state.step (.request moment asked)).2 = .response response)
    (created : response.status = 201) :
    ∃ slots accounts, Http.JsonBody.read Endpoint.Registration.record asked = .ok slots ∧
      state.site.stores.database.accounts = .ok accounts ∧
      let form := Endpoint.Registration.Form.ofSlots slots
      let account := form.account moment.salt (accounts.lastId + 1)
      response = Http.Response.json 201 account.principal.document ∧
      form.password.length ≤ Endpoint.Registration.maxPasswordLength ∧
      (state.step (.request moment asked)).1.AccountsAre (account ∈ ·.rows) := by
  have handled : (Endpoint.handle state.site moment asked).2 = response := Outcome.response.inj answered
  rw [← handled] at created ⊢
  obtain ⟨slots, limiter, database, principal, read, registers, same⟩ :=
    Endpoint.handle_of_registered asks posted created
  obtain ⟨passed, id, creates, rfl⟩ := Endpoint.Registration.register_eq_ok_iff.mp registers
  obtain ⟨accounts, table, serves, added, rfl⟩ := Database.createAccount_eq_ok_iff.mp creates
  obtain ⟨-, -, rfl, rfl⟩ := Accounts.create_eq_ok_iff.mp added
  refine ⟨slots, accounts, read, serves.answered, ?_, Endpoint.Registration.length_le_of_check passed, ?_⟩
  · rw [same]
  · intro changed present
    have written : (Endpoint.handle state.site moment asked).1.stores.database.tables.accounts =
        some changed := present
    rw [same] at written
    cases written
    exact List.mem_append_right _ (List.mem_singleton.mpr rfl)

/-- A registration succeeds if its form passes the check, an id is left and no account has its address. -/
theorem registration_of_free {slots : Json.Slots String} {form : Endpoint.Registration.Form}
    {accounts : Accounts} (moment : Endpoint.Moment) (asks : asked.resource? = some .users)
    (posted : asked.method = "POST") (granted : (state.site.registrations.grant asked.client).2 = true)
    (read : Http.JsonBody.read Endpoint.Registration.record asked = .ok slots)
    (filled : Endpoint.Registration.Form.ofSlots slots = form)
    (serves : state.site.stores.database.Serves accounts)
    (passed : Endpoint.Registration.check (Text.trimmed form.email) (Text.trimmed form.displayName)
      form.password = .ok ())
    (room : accounts.lastId < maxSigned) (free : accounts.byEmail? (Text.trimmed form.email) = none) :
    let account := form.account moment.salt (accounts.lastId + 1)
    ∃ limiter, state.step (.request moment asked) =
      ({ state with
          site := { state.site with registrations := limiter }.withDatabase
            (state.site.stores.database.setAccounts
              { rows := accounts.rows ++ [account], lastId := accounts.lastId + 1 }) },
        .response (Http.Response.json 201 account.principal.document)) := by
  have registers := Endpoint.Registration.register_of_free moment serves passed room free
  rw [← filled] at registers
  have answers : Endpoint.Registration.answer
      { state.site with registrations := (state.site.registrations.grant asked.client).1 } moment asked =
        _ := Endpoint.Registration.answer_of_register read registers
  refine ⟨(state.site.registrations.grant asked.client).1, ?_⟩
  simp only [step, Endpoint.handle_registration asks posted, if_pos granted, answers, filled]

/-- A login with the password of an account and an address of it begins a session. -/
theorem login_of_account {slots : Json.Slots String} {accounts : Accounts}
    (policy : state.site.policy = state.setup.policy) (asks : asked.resource? = some .session)
    (posted : asked.method = "POST") (granted : (state.site.logins.grant asked.client).2 = true)
    (read : Http.JsonBody.read Endpoint.Login.record asked = .ok slots)
    (there : state.site.stores.database.accounts = .ok accounts)
    (found : accounts.byEmail? (Text.trimmed (Endpoint.Login.Form.ofSlots slots).email) = some account)
    (short : (Endpoint.Login.Form.ofSlots slots).password.length ≤
      Endpoint.Registration.maxPasswordLength)
    (verified : Password.verify (Endpoint.Login.Form.ofSlots slots).password account.passwordHash = true)
    {now : Nat} (reads : moment.clock = some now)
    (fits : now + state.setup.policy.sessionLifetime ≤ maxWord) :
    ∃ issued, Token.issue state.setup.policy.secret account.principal now
        state.setup.policy.sessionLifetime moment.tokenId = .ok issued ∧
      (state.step (.request moment asked)).2 =
        .response (Endpoint.Login.Begun.response { issued := issued, user := account.principal }
          state.setup.policy.secureCookies) := by
  obtain ⟨issued, issues⟩ : ∃ issued, Token.issue state.setup.policy.secret account.principal now
      state.setup.policy.sessionLifetime moment.tokenId = .ok issued :=
    ⟨_, Token.issue_eq_ok_iff.mpr ⟨fits, rfl⟩⟩
  refine ⟨issued, issues, ?_⟩
  have good : Endpoint.Login.authenticate state.site.stores.database
      (Endpoint.Login.Form.ofSlots slots) = .ok account :=
    Endpoint.Login.authenticate_eq_ok_iff.mpr
      ⟨short, Database.accountByEmail_eq_ok_iff.mpr ⟨accounts, there, found⟩, verified⟩
  have begins : Endpoint.Login.begin? state.setup.policy state.site.stores.database moment
      (Endpoint.Login.Form.ofSlots slots) = .ok { issued := issued, user := account.principal } :=
    Endpoint.Login.begin?_eq_ok_iff.mpr ⟨account, now, good, reads, rfl, issues⟩
  rw [step_request, Endpoint.handle_login asks posted, if_pos granted]
  simp only [Endpoint.Login.answer, read, policy, begins]

/-- A server that has an account, and no other with its id or its address. -/
structure Knows (state : State) (account : Account) : Prop where
  settled : state.IsSettled
  sound : state.AccountsAre Accounts.IsSound
  member : state.AccountsAre (account ∈ ·.rows)

namespace Knows
variable (knows : state.Knows account)
include knows

theorem run {operations : List Operation} (spares : state.Spares account.id operations) :
    (state.run operations).1.Knows account where
  settled := knows.settled.run operations
  sound := knows.settled.run_isSound knows.sound operations
  member := knows.settled.run_mem spares knows.member

theorem request (moment : Endpoint.Moment) (asked : Http.Request) :
    (state.step (.request moment asked)).1.Knows account := by
  have spared : state.Spares account.id [.request moment asked] := by
    refine ⟨?_, ?_⟩
    · intro operation member
      cases List.mem_singleton.mp member
      trivial
    · intro told
      cases List.mem_singleton.mp told
  exact knows.run spared

/-- The account is found by its id, if the database answers. -/
theorem accountById (healthy : ∃ looked, (state.step (.accountById account.id)).2 = .account looked) :
    state.site.stores.database.accountById account.id = .ok (some account) := by
  obtain ⟨_, looked⟩ := healthy
  obtain ⟨accounts, there, -⟩ := Database.accountById_eq_ok_iff.mp (accountById_of_step looked)
  exact Database.accountById_eq_ok_iff.mpr
    ⟨accounts, there, (knows.sound.of_eq_ok there).byId? (knows.member.of_eq_ok there)⟩

theorem isSigned (healthy : ∃ looked, (state.step (.accountById account.id)).2 = .account looked) :
    IsSigned account.id := by
  obtain ⟨_, looked⟩ := healthy
  obtain ⟨accounts, there, -⟩ := Database.accountById_eq_ok_iff.mp (accountById_of_step looked)
  exact (knows.sound.of_eq_ok there).ids_signed account (knows.member.of_eq_ok there)

end Knows

/-- A login that repeats the registration of an account begins a session, if the database answers. -/
theorem Knows.login_of_repeats {form : Endpoint.Registration.Form} {salt : Bytes} {id : Int}
    (knows : state.Knows (form.account salt id)) (salted : salt.length = 16)
    (short : form.password.length ≤ Endpoint.Registration.maxPasswordLength)
    (healthy : ∃ looked, (state.step (.accountById id)).2 = .account looked)
    (repeats : Endpoint.Login.Repeats form asked)
    (granted : (state.site.logins.grant asked.client).2 = true)
    {now : Nat} (reads : moment.clock = some now)
    (fits : now + state.setup.policy.sessionLifetime ≤ maxWord) :
    ∃ issued, Token.issue state.setup.policy.secret (form.account salt id).principal now
        state.setup.policy.sessionLifetime moment.tokenId = .ok issued ∧
      (state.step (.request moment asked)).2 =
        .response (Endpoint.Login.Begun.response
          { issued := issued, user := (form.account salt id).principal }
          state.setup.policy.secureCookies) := by
  obtain ⟨slots, read, password, address⟩ := repeats.credentials
  obtain ⟨accounts, there, -⟩ := Database.accountById_eq_ok_iff.mp (knows.accountById healthy)
  have same : Mailbox.same (Text.trimmed form.email)
      (Text.trimmed (Endpoint.Login.Form.ofSlots slots).email) = true := by
    apply Mailbox.same_of_lowerAscii
    rw [Text.trimmed, Text.trimmed, String.toList_ofList, String.toList_ofList, address]
  have verified : Password.verify form.password (form.account salt id).passwordHash = true :=
    Password.verify_hash (by rw [salted]; decide) (by rw [salted]; decide) form.password
  refine login_of_account knows.settled.policy repeats.asks repeats.posted granted read there
    ((knows.sound.of_eq_ok there).byEmail? (knows.member.of_eq_ok there) same) ?_ ?_ reads fits
  · rw [password]
    exact short
  · rw [password]
    exact verified

theorem stores_of_login (moment : Endpoint.Moment) (asks : asked.resource? = some .session)
    (posted : asked.method = "POST") :
    (state.step (.request moment asked)).1.site.stores = state.site.stores := by
  simp only [step, Endpoint.handle_login asks posted]
  split
  next => rfl
  next => rfl

/-- A question for the session of a token that was issued for an account is answered with the account,
while the token is neither revoked nor expired and the database answers. -/
theorem Knows.session_of_asks {issuedAt duration lifetime : Nat} {tokenId cookie : String}
    {issued : Token.Issued} {secure : Bool} (knows : state.Knows account)
    (set : cookie = Credential.Cookie.session issued.token lifetime secure)
    (issues : Token.issue state.setup.policy.secret account.principal issuedAt duration tokenId =
      .ok issued)
    (healthy : ∃ looked, (state.step (.accountById account.id)).2 = .account looked)
    (question : Endpoint.Session.Asks issued.token cookie asked)
    {now : Nat} (reads : moment.clock = some now) (unexpired : now < issued.expiresAt)
    (unrevoked : (state.step (.isRevoked issued.token now)).2 = .truth false) :
    (state.step (.request moment asked)).2 =
      .response
        { status := 200, contentType := some "application/json"
          body :=
            "\x7b\"user\":" ++ account.principal.document.render ++ ",\"expires_at\":" ++
              toString issued.expiresAt ++ "\x7d" } := by
  obtain ⟨visible, single, nonempty⟩ := Token.isVisible_of_issue issues
  have presented := Credential.presented?_of_sent visible single nonempty (set ▸ question.sent)
  obtain ⟨_, answer, same⟩ := Operation.of_outcome unrevoked nofun
  cases same
  rw [← Endpoint.isRevoked_endpointStores] at answer
  have database : state.site.endpointStores.people = .database := rfl
  have good := Session.validateToken_of_issue database issues (knows.isSigned healthy) unexpired answer
    (knows.accountById healthy)
  rw [← knows.settled.policy, ← Session.validate_of_presented presented] at good
  have found : (Endpoint.Session.authenticate state.site moment.clock asked.headers).2 =
      .ok { principal := account.principal, expiresAt := issued.expiresAt, token := issued.token } := by
    rw [reads]
    exact good
  rw [step_request, Endpoint.handle_current question.asks question.got found]

/-- What a registration was answered holds until the account is deleted. Each login that repeats its
password and its address is answered with the account as the registration showed it, and with a token and
a cookie for as long as sessions last; and each question for the session of this token is answered with the
same account and the same expiry, while the token is neither revoked nor expired. -/
theorem registered_can_log_in {setup : Setup} {files remaining : Database.Files}
    {before : List Operation} {response : Http.Response}
    (started : start setup files = (remaining, .ok state))
    (sound : state.AccountsAre Accounts.IsSound)
    (asks : asked.resource? = some .users) (posted : asked.method = "POST")
    (salted : moment.salt.length = 16)
    (answered : ((state.run before).1.step (.request moment asked)).2 = .response response)
    (created : response.status = 201) :
    ∃ slots id shown, Http.JsonBody.read Endpoint.Registration.record asked = .ok slots ∧
      let form := Endpoint.Registration.Form.ofSlots slots
      let user : Principal :=
        { id := id, email := Text.trimmed form.email, displayName := Text.trimmed form.displayName }
      user.Shows shown ∧
      response = { status := 201, contentType := some "application/json", body := shown } ∧
      ∀ middle,
        let registered := ((state.run before).1.step (.request moment asked)).1
        let present := (registered.run middle).1
        registered.Spares id middle →
        (∃ looked, (present.step (.accountById id)).2 = .account looked) →
        ∀ (login : Endpoint.Moment) (start : Nat) (credentials : Http.Request),
          login.clock = some start →
          Endpoint.Login.Repeats form credentials →
          (present.site.logins.grant credentials.client).2 = true →
          let lifetime := state.setup.policy.sessionLifetime
          let secure := state.setup.policy.secureCookies
          let expiresAt := start + lifetime
          expiresAt ≤ maxWord →
          ∃ token cookie,
            Token.issue state.setup.policy.secret user start lifetime login.tokenId =
              .ok { token := token, issuedAt := start, expiresAt := expiresAt
                    duration := lifetime } ∧
            cookie = "session_token=" ++ token ++ "; HttpOnly; SameSite=Strict; Path=/; Max-Age=" ++
              toString lifetime ++ (if secure then "; Secure" else "") ∧
            (present.step (.request login credentials)).2 =
              .response
                { status := 200, contentType := some "application/json", setCookie := some cookie
                  body :=
                    "\x7b\"token\":\"" ++ token ++ "\",\"expires_at\":" ++ toString expiresAt ++
                      ",\"user\":" ++ shown ++ "\x7d" } ∧
            ∀ after,
              let loggedIn := (present.step (.request login credentials)).1
              let later := (loggedIn.run after).1
              loggedIn.Spares id after →
              (∃ looked, (later.step (.accountById id)).2 = .account looked) →
              ∀ (time : Endpoint.Moment) (now : Nat) (question : Http.Request),
                time.clock = some now →
                Endpoint.Session.Asks token cookie question → now < expiresAt →
                (later.step (.isRevoked token now)).2 = .truth false →
                (later.step (.request time question)).2 =
                  .response
                    { status := 200, contentType := some "application/json"
                      body :=
                        "\x7b\"user\":" ++ shown ++ ",\"expires_at\":" ++ toString expiresAt ++
                          "\x7d" } := by
  have settled := isSettled_of_start started
  have soundAfter := (settled.run before).step_isSound (settled.run_isSound sound before)
    (.request moment asked)
  obtain ⟨slots, accounts, read, there, same, short, member⟩ := of_registration asks posted answered created
  let shown := ((Endpoint.Registration.Form.ofSlots slots).account moment.salt
    (accounts.lastId + 1)).principal.document.render
  refine ⟨slots, accounts.lastId + 1, shown, read, ?_⟩
  intro form user
  refine ⟨user.shows_document, same, ?_⟩
  intro middle registered present spared healthy login start credentials reads repeats granted lifetime
    secure expiresAt fits
  have knows : present.Knows (form.account moment.salt (accounts.lastId + 1)) :=
    Knows.run ⟨(settled.run before).step, soundAfter, member⟩ spared
  have setupNow : present.setup = state.setup := by
    rw [run_setup, step_setup, run_setup]
  have fitsNow : start + present.setup.policy.sessionLifetime ≤ maxWord := by
    rw [setupNow]
    exact fits
  obtain ⟨issued, issues, welcome⟩ :=
    knows.login_of_repeats salted short healthy repeats granted reads fitsNow
  rw [setupNow] at issues welcome
  have spelled : issued = { token := issued.token, issuedAt := start, expiresAt := expiresAt
                            duration := lifetime } := by rw [(Token.issue_eq_ok_iff.mp issues).2]
  have expires : issued.expiresAt = expiresAt := by rw [spelled]
  have lasts : issued.duration = lifetime := by rw [spelled]
  rw [Endpoint.Login.Begun.response_eq _ _ (Token.flatMap_writeChar_of_issue issues)] at welcome
  simp only [expires, lasts] at welcome
  refine ⟨issued.token, _, spelled ▸ issues, rfl, welcome, ?_⟩
  intro after loggedIn later sparedAfter healthyLater time now question readsLater asksFor unexpired
    unrevoked
  have setupLater : later.setup = state.setup := by
    rw [run_setup, step_setup, setupNow]
  have knowsLater : later.Knows (form.account moment.salt (accounts.lastId + 1)) :=
    (knows.request login credentials).run sparedAfter
  have issuesLater : Token.issue later.setup.policy.secret
      (form.account moment.salt (accounts.lastId + 1)).principal start lifetime login.tokenId =
        .ok issued := by
    rw [setupLater]
    exact issues
  rw [← expires] at unexpired
  have told := knowsLater.session_of_asks (Credential.Cookie.session_eq _ lifetime secure).symm issuesLater
    healthyLater asksFor readsLater unexpired unrevoked
  rw [expires] at told
  exact told

/-- What is filled in at a registration, with blanks around it. -/
def signUp : Endpoint.Registration.Form :=
  { email := " Ada@Example.org ", displayName := " Ada", password := "correct horse" }

/-- What is filled in at a login. -/
def signIn : Endpoint.Login.Form := { email := "ada@EXAMPLE.org", password := "correct horse" }

def firstMoment : Endpoint.Moment :=
  { clock := some 1700000000, salt := List.replicate 16 0x5A, tokenId := "first" }

def registrationRequest : Http.Request := .post "/api/users" signUp.document

def loginRequest : Http.Request := .post "/api/session" signIn.document

theorem serves_inMemory : inMemory.site.stores.database.Serves .empty :=
  ⟨Database.eq_ok_of_toOption (by decide +kernel), rfl⟩

theorem isSound_inMemory : inMemory.AccountsAre Accounts.IsSound :=
  isSound_of_empty (Database.accounts_eq_ok_iff.mp serves_inMemory.answered).2

theorem repeats_loginRequest : Endpoint.Login.Repeats signUp loginRequest :=
  Endpoint.Login.repeats_post (by decide +kernel) rfl (by decide +kernel)

/-- A server in memory after a registration. -/
def registered : State := (inMemory.step (.request firstMoment registrationRequest)).1

/-- The account that was registered. -/
def registeredAccount : Account := signUp.account firstMoment.salt 1

/-- Who signs up with a server that has no accounts gets the first one. -/
theorem step_registrationRequest_of_empty (serves : state.site.stores.database.Serves .empty)
    (granted : (state.site.registrations.grant registrationRequest.client).2 = true) :
    ∃ limiter, state.step (.request firstMoment registrationRequest) =
      ({ state with
          site := { state.site with registrations := limiter }.withDatabase
            (state.site.stores.database.setAccounts { rows := [registeredAccount], lastId := 1 }) },
        .response (Http.Response.json 201 registeredAccount.principal.document)) := by
  obtain ⟨slots, read, filled⟩ := Endpoint.Registration.read_post signUp (by decide +kernel)
  have passed : Endpoint.Registration.check (Text.trimmed signUp.email) (Text.trimmed signUp.displayName)
      signUp.password = .ok () := Database.eq_ok_of_toOption (by decide +kernel)
  have asks : registrationRequest.resource? = some .users := by decide
  exact registration_of_free firstMoment asks rfl granted read filled serves passed (by decide) rfl

theorem step_registrationRequest :
    (inMemory.step (.request firstMoment registrationRequest)).2 =
        .response (Http.Response.json 201 registeredAccount.principal.document) ∧
      ∃ limiter, registered =
        { inMemory with
          site := { inMemory.site with registrations := limiter }.withDatabase
            (inMemory.site.stores.database.setAccounts { rows := [registeredAccount], lastId := 1 }) } := by
  obtain ⟨limiter, stepped⟩ := step_registrationRequest_of_empty serves_inMemory rfl
  exact ⟨congrArg Prod.snd stepped, limiter, congrArg Prod.fst stepped⟩

theorem serves_registered :
    registered.site.stores.database.Serves { rows := [registeredAccount], lastId := 1 } := by
  obtain ⟨-, limiter, written⟩ := step_registrationRequest
  rw [written]
  exact serves_inMemory.setAccounts _

theorem register_registered : registered.site.stores.register = .ok [] := by
  obtain ⟨-, limiter, written⟩ := step_registrationRequest
  rw [written]
  rfl

theorem grant_registered : (registered.site.logins.grant loginRequest.client).2 = true := by
  obtain ⟨-, limiter, written⟩ := step_registrationRequest
  rw [written]
  rfl

theorem stores_of_loginRequest :
    (registered.step (.request firstMoment loginRequest)).1.site.stores = registered.site.stores :=
  stores_of_login firstMoment (by decide) rfl

/-- Who registers with a server in memory can log in with the address in another case, and is known by the
cookie of the login, and by its token alone, up to the last second. -/
theorem registered_can_log_in_inMemory :
    let loggedIn := (registered.step (.request firstMoment loginRequest)).1
    let shown := "\x7b\"id\":1,\"email\":\"Ada@Example.org\",\"display_name\":\"Ada\"\x7d"
    ∃ token cookie sent bearer,
      (inMemory.step (.request firstMoment registrationRequest)).2 =
        .response { status := 201, contentType := some "application/json", body := shown } ∧
      cookie = "session_token=" ++ token ++ "; HttpOnly; SameSite=Strict; Path=/; Max-Age=3600" ∧
      (registered.step (.request firstMoment loginRequest)).2 =
        .response
          { status := 200, contentType := some "application/json", setCookie := some cookie
            body :=
              "\x7b\"token\":\"" ++ token ++ "\",\"expires_at\":" ++ "1700003600" ++ ",\"user\":" ++ shown ++
                "\x7d" } ∧
      Credential.Cookie.SendsBack sent cookie ∧ Credential.Bears bearer token ∧
      ∀ headers, headers = sent ∨ headers = bearer →
        (loggedIn.step (.request { firstMoment with clock := some 1700003599 }
            { method := "GET", target := "/api/session", headers := headers })).2 =
          .response
            { status := 200, contentType := some "application/json"
              body := "\x7b\"user\":" ++ shown ++ ",\"expires_at\":" ++ "1700003600" ++ "\x7d" } := by
  intro loggedIn shown
  have answered : ((inMemory.run []).1.step (.request firstMoment registrationRequest)).2 =
      .response (Http.Response.json 201 registeredAccount.principal.document) := step_registrationRequest.1
  obtain ⟨slots, id, text, read, -, answer, logsIn⟩ := registered_can_log_in start_memorySetup
    isSound_inMemory (by decide) rfl rfl answered rfl
  obtain ⟨others, readForm, filled⟩ := Endpoint.Registration.read_post signUp (by decide +kernel)
  cases read.symm.trans readForm
  have rendered : registeredAccount.principal.document.render = shown := by decide +kernel
  have same : text = shown := (congrArg Http.Response.body answer).symm.trans rendered
  rw [same] at answer logsIn
  rw [filled] at logsIn
  obtain ⟨token, cookie, issues, set, welcome, known⟩ := logsIn [] (spares_nil registered id)
    (accountById_answers serves_registered.answered id) firstMoment 1700000000 loginRequest rfl
    repeats_loginRequest grant_registered (by decide)
  obtain ⟨visible, single, -⟩ := Token.isVisible_of_issue issues
  obtain ⟨sent, sends⟩ := Credential.Cookie.exists_sendsBack visible single 3600 false
  have cookieSet : cookie = Credential.Cookie.session token 3600 false :=
    set.trans (Credential.Cookie.session_eq token 3600 false).symm
  rw [← show cookie = Credential.Cookie.session _ 3600 false from cookieSet] at sends
  have ends : toString (1700000000 + inMemory.setup.policy.sessionLifetime) = "1700003600" := by decide
  simp only [ends] at welcome known
  obtain ⟨bearer, -, bears⟩ := Credential.exists_bears fun c member =>
    Http.isReadable_of_isVisible (visible c member)
  refine ⟨token, cookie, sent, bearer, answered.trans (congrArg Outcome.response answer), ?_, welcome,
    sends, bears, ?_⟩
  · rw [set, String.append_assoc, String.append_assoc]
    rfl
  intro headers either
  have there := serves_registered.answered
  have register := register_registered
  rw [← stores_of_loginRequest] at there register
  have unrevoked : (loggedIn.step (.isRevoked token 1700003599)).2 = .truth false := by
    rw [step_isRevoked register, Revocation.Backing.isRevoked_snd]
    rfl
  have path : Http.Resource.ofPath? (Http.targetPath "/api/session") = some .session := by decide
  have sent : Credential.Cookie.SendsBack headers cookie ∨ Credential.Bears headers token := by
    rcases either with rfl | rfl
    · exact .inl sends
    · exact .inr bears
  exact known [] (spares_nil loggedIn id) (accountById_answers there id)
    { firstMoment with clock := some 1700003599 } 1700003599 _ rfl ⟨path, rfl, sent⟩ (by decide) unrevoked

end Server.State

end SessionServer
