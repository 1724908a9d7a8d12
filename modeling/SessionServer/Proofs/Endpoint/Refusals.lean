import SessionServer.Proofs.Database.Current
import SessionServer.Proofs.Endpoint.Answers
import SessionServer.Proofs.Endpoint.Effects
import SessionServer.Proofs.Endpoint.Forms
import SessionServer.Proofs.Session.Faults

/-!
What refusals tell. Whoever is not authenticated gets one answer, whatever the reason and whatever the
server holds, and so does whoever logs in with wrong credentials; only a fault of the stores is told apart.
-/

namespace SessionServer.Endpoint
open SessionServer.Session (Authenticated StoreFault checkFault? validate)

variable {site : Site} {moment : Moment} {request : Http.Request}

/-- What is answered to those who ask for their session or for a socket, if their check fails. -/
theorem handle_of_error {error : SessionServer.Session.Error} (got : request.method = "GET")
    (asked : request.resource? = some .session ∨ request.resource? = some .socket)
    (failed : (Session.authenticate site moment.clock request.headers).2 = .error error) :
    (handle site moment request).2 = Http.Refusal.ofSession error site.policy.secureCookies := by
  have unposted : request.method ≠ "POST" := by
    rw [got]
    decide
  have reads : request.method = "GET" ∨ request.method = "HEAD" := .inl got
  rw [handle_eq_route got (by decide), route]
  rcases asked with asked | asked
  · simp only [asked, session, if_neg unposted, if_pos reads, Session.current, authenticated_snd, failed]
  · simp only [asked, socket, if_pos reads, Session.socket, authenticated_snd, failed]

namespace Login

/-- Whether a database that answers has no account with these credentials: the password is too long for any,
or the account with the address, if there is one, has a stored text that does not verify the password. -/
def Fails (database : Database) (form : Form) : Prop :=
  ∃ accounts, database.accounts = .ok accounts ∧
    (Registration.maxPasswordLength < form.password.length ∨
      ∀ account, accounts.byEmail? (Text.trimmed form.email) = some account →
        Password.verify form.password account.passwordHash = false)

theorem authenticate_of_fails {database : Database} {form : Form} (fails : Fails database form) :
    authenticate database form = .error invalidCredentials := by
  obtain ⟨accounts, answered, wrong⟩ := fails
  unfold authenticate
  split
  next => rfl
  next short =>
    have looked : database.accountByEmail (Text.trimmed form.email) =
        .ok (accounts.byEmail? (Text.trimmed form.email)) := by
      simp only [Database.accountByEmail, answered]
    rw [looked]
    cases found : accounts.byEmail? (Text.trimmed form.email) with
    | none => rfl
    | some account =>
      simp only [wrong.resolve_left short account found, Bool.false_eq_true, if_false]

/-- A text that is no password hash verifies no password. -/
theorem fails_of_malformed {database : Database} {form : Form} {accounts : Accounts}
    (answered : database.accounts = .ok accounts)
    (malformed : ∀ account, accounts.byEmail? (Text.trimmed form.email) = some account →
      Password.Encoded.ofString? account.passwordHash = none) : Fails database form := by
  refine ⟨accounts, answered, .inr ?_⟩
  intro account found
  simp only [Password.verify, malformed account found]

end Login

/-- A request, with the site that it meets and the moment in which it does. -/
structure Visit where
  site : Site
  moment : Moment
  request : Http.Request

namespace Visit

def response (visit : Visit) : Http.Response := (handle visit.site visit.moment visit.request).2

/-- What is found of the session that the request presents. -/
def verdict (visit : Visit) : Except SessionServer.Session.Error Authenticated :=
  (Session.authenticate visit.site visit.moment.clock visit.request.headers).2

/-- The fault of the store that fails in the check of the session. -/
def fault? (visit : Visit) : Option StoreFault :=
  visit.moment.clock.bind
    (checkFault? visit.site.policy.secret visit.site.endpointStores visit.request.headers)

/-- Whether the session cannot be checked, as the clock or a store fails. -/
def IsUnchecked (visit : Visit) : Prop := visit.moment.clock = none ∨ visit.fault?.isSome = true

instance (visit : Visit) : Decidable visit.IsUnchecked := inferInstanceAs (Decidable (_ ∨ _))

/-- Whether the request asks for its session or for a socket. -/
def AsksSession (visit : Visit) : Prop :=
  visit.request.method = "GET" ∧
    (visit.request.resource? = some .session ∨ visit.request.resource? = some .socket)

/-- Whether the check of the session rejects the request without a fault. -/
def RejectsSession (visit : Visit) : Prop :=
  visit.AsksSession ∧ ¬ visit.IsUnchecked ∧ ∃ error, visit.verdict = .error error

/-- Whether the request posts a login with this form, and its client may ask once more. -/
structure LogsIn (visit : Visit) (form : Login.Form) : Prop where
  asks : visit.request.resource? = some .session
  posted : visit.request.method = "POST"
  granted : (visit.site.logins.grant visit.request.client).2 = true
  read : ∃ slots, Http.JsonBody.read Login.record visit.request = .ok slots ∧
    Login.Form.ofSlots slots = form

variable {first second visit : Visit} {form : Login.Form}

/-- The session of a request cannot be checked exactly if it is not available. -/
theorem verdict_eq_unavailable_iff :
    visit.verdict = .error .validatorUnavailable ↔ visit.IsUnchecked := by
  unfold verdict IsUnchecked fault?
  cases visit.moment.clock with
  | none => exact iff_of_true rfl (.inl rfl)
  | some now =>
    simp only [reduceCtorEq, false_or, Option.bind_some]
    exact SessionServer.Session.validate_eq_unavailable_iff

theorem response_of_rejectsSession (rejects : visit.RejectsSession) :
    visit.response =
      { status := 401, contentType := some "application/json"
        setCookie :=
          some ("session_token=; HttpOnly; SameSite=Strict; Path=/; Max-Age=0" ++
            (if visit.site.policy.secureCookies then "; Secure" else ""))
        body := "\x7b\"error\":\"Not authenticated\"\x7d" } := by
  obtain ⟨⟨got, asked⟩, checked, error, failed⟩ := rejects
  have permanent : error ≠ .validatorUnavailable := by
    rintro rfl
    exact checked (verdict_eq_unavailable_iff.mp failed)
  rw [response, handle_of_error got asked failed, Http.Refusal.ofSession_eq, if_neg permanent]

theorem response_of_isUnchecked (asks : visit.AsksSession) (unchecked : visit.IsUnchecked) :
    visit.response =
      { status := 503, contentType := some "application/json", retryAfter := some 1, setCookie := none
        body := "\x7b\"error\":\"Service temporarily unavailable\"\x7d" } := by
  have failed := verdict_eq_unavailable_iff.mpr unchecked
  rw [response, handle_of_error asks.1 asks.2 failed, Http.Refusal.ofSession_eq, if_pos rfl]

theorem response_of_fails (logsIn : visit.LogsIn form)
    (fails : Login.Fails visit.site.stores.database form) :
    visit.response =
      { status := 401, contentType := some "application/json"
        body := "\x7b\"error\":\"Invalid email or password\"\x7d" } := by
  obtain ⟨slots, read, rfl⟩ := logsIn.read
  have refused : visit.response = Login.invalidCredentials.response := by
    rw [response, handle_login logsIn.asks logsIn.posted, if_pos logsIn.granted]
    simp only [Login.answer, read, Login.begin?, Login.authenticate_of_fails fails]
  rw [refused, Http.Refusal.response_eq (by decide)]
  rfl

/-- Two sites may differ in all that they hold and two requests in all that they carry: those whose session
is rejected get the same answer, which clears their cookie, unless the clock or a store fails, of which they
are told without a cookie; and those who log in with wrong credentials get the same answer. -/
theorem rejections_reveal_nothing (first second : Visit) :
    (first.site.policy.secureCookies = second.site.policy.secureCookies →
      first.RejectsSession → second.RejectsSession →
      first.response = second.response ∧
        first.response =
          { status := 401, contentType := some "application/json"
            setCookie :=
              some ("session_token=; HttpOnly; SameSite=Strict; Path=/; Max-Age=0" ++
                (if first.site.policy.secureCookies then "; Secure" else ""))
            body := "\x7b\"error\":\"Not authenticated\"\x7d" }) ∧
    (first.AsksSession → first.moment.clock = none ∨ first.fault?.isSome = true →
      first.response =
        { status := 503, contentType := some "application/json", retryAfter := some 1, setCookie := none
          body := "\x7b\"error\":\"Service temporarily unavailable\"\x7d" }) ∧
    (∀ firstForm secondForm, first.LogsIn firstForm → second.LogsIn secondForm →
      Login.Fails first.site.stores.database firstForm →
      Login.Fails second.site.stores.database secondForm →
      first.response = second.response ∧
        first.response =
          { status := 401, contentType := some "application/json"
            body := "\x7b\"error\":\"Invalid email or password\"\x7d" }) := by
  refine ⟨?_, ?_, ?_⟩
  · intro policy rejects otherRejects
    rw [response_of_rejectsSession rejects, response_of_rejectsSession otherRejects, policy]
    exact ⟨rfl, rfl⟩
  · intro asks unchecked
    exact response_of_isUnchecked asks unchecked
  · intro firstForm secondForm logsIn otherLogsIn fails otherFails
    rw [response_of_fails logsIn fails, response_of_fails otherLogsIn otherFails]
    exact ⟨rfl, rfl⟩

/-- Who asks for a session without any token, on a site that holds nothing. -/
def stranger : Visit where
  site :=
    { policy := { secret := [0x6B], sessionLifetime := 3600 }
      stores := { backing := .memory, database := { path := none, tables := .new } } }
  moment := { clock := some 1700000000, salt := [], tokenId := "" }
  request := { method := "GET", target := "/api/session" }

/-- Who asks for a socket with a token that nobody issued, on a site with another secret and an account. -/
def intruder : Visit where
  site :=
    { policy := { secret := [0x6C], sessionLifetime := 60 }
      stores :=
        { backing := .database
          database :=
            Database.setAccounts { path := none, tables := .new }
              { rows :=
                  [{ id := 1, email := "ada@example.org", displayName := "Ada", passwordHash := "none" }]
                lastId := 1 } } }
  moment := { clock := some 0, salt := [], tokenId := "" }
  request :=
    { method := "GET", target := "/api/ws"
      headers := { fields := [("authorization", { octets := Utf8.encode "Bearer token".toList })] } }

/-- The same where the register does not answer. -/
def unlucky : Visit :=
  { intruder with
    site := { intruder.site with stores := { intruder.site.stores with unreachable := true } } }

def attempt : Login.Form := { email := "Ada@Example.org", password := "correct horse" }

def withAttempt (visit : Visit) : Visit :=
  { visit with request := .post "/api/session" attempt.document }

/-- Neither a token that nobody issued nor the address of an account changes the answer; a register that
does not answer is told apart. -/
theorem rejections_reveal_nothing_intruder :
    stranger.response = intruder.response ∧ stranger.response.status = 401 ∧
      stranger.response.setCookie =
        some "session_token=; HttpOnly; SameSite=Strict; Path=/; Max-Age=0" ∧
      unlucky.response.status = 503 ∧
      stranger.withAttempt.response = intruder.withAttempt.response := by
  have socket : intruder.request.resource? = some .socket := by decide
  have rejects : stranger.RejectsSession :=
    ⟨⟨rfl, .inl (by decide)⟩, by decide, _, (by decide : stranger.verdict = .error .noCredentials)⟩
  have otherRejects : intruder.RejectsSession :=
    ⟨⟨rfl, .inr socket⟩, by decide +kernel, _,
      (by decide +kernel : intruder.verdict = .error .invalidOrExpiredToken)⟩
  have logsIn (visit : Visit) (granted : (visit.site.logins.grant .internal).2 = true) :
      visit.withAttempt.LogsIn attempt :=
    ⟨by show Http.Resource.ofPath? (Http.targetPath "/api/session") = _; decide, rfl, granted,
      Login.read_post attempt (by decide +kernel)⟩
  have unknown : Login.Fails stranger.site.stores.database attempt := by
    refine ⟨.empty, rfl, .inr ?_⟩
    intro account found
    cases found
  have malformed : Login.Fails intruder.site.stores.database attempt := by
    refine Login.fails_of_malformed rfl ?_
    intro account found
    rw [show account.passwordHash = "none" from ?_]
    · decide +kernel
    · obtain ⟨member, -⟩ := Accounts.byEmail?_eq_some found
      rw [List.mem_singleton.mp member]
  obtain ⟨sessions, -⟩ := rejections_reveal_nothing stranger intruder
  obtain ⟨-, faults, -⟩ := rejections_reveal_nothing unlucky intruder
  obtain ⟨-, -, logins⟩ := rejections_reveal_nothing stranger.withAttempt intruder.withAttempt
  obtain ⟨same, told⟩ := sessions rfl rejects otherRejects
  have unavailable := congrArg Http.Response.status (faults ⟨rfl, .inr socket⟩ (by decide +kernel))
  have alike := (logins attempt attempt (logsIn stranger rfl) (logsIn intruder rfl) unknown malformed).1
  exact ⟨same, congrArg Http.Response.status told, congrArg Http.Response.setCookie told, unavailable,
    alike⟩

end Visit

end SessionServer.Endpoint
