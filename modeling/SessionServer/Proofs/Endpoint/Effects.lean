import SessionServer.Proofs.Endpoint.Answers
import SessionServer.Proofs.Endpoint.Registration
import SessionServer.Proofs.Endpoint.Steps
import SessionServer.Proofs.Session.Matching

/-!
What the answer to a request tells of its effects. A request that fails has written nothing, but for a
question that may have dropped an entry; and of those that succeed only a registration creates an account,
and only the end of a session revokes.
-/

namespace SessionServer

theorem Database.createAccount_of_failed {database changed : Database} {error : Database.Error}
    {email displayName passwordHash : String}
    (failed : database.createAccount email displayName passwordHash = (changed, .error error)) :
    changed = database := by
  rcases database.createAccount_cases email displayName passwordHash with
    ⟨fault, refused⟩ | ⟨_, _, _, -, -, written⟩
  · exact congrArg Prod.fst (failed.symm.trans refused)
  · cases failed.symm.trans written

namespace Endpoint
open Revocation (Call)
open SessionServer.Session (Authenticated Stores checkCall? logoutCall?)

/-- What a registration writes depends on the accounts alone. -/
theorem Registration.written_follow {first second : Database} (shares : first.SharesAccounts second)
    (moment : Moment) (request : Http.Request) :
    Database.Follow first second (Registration.written first moment request)
      (Registration.written second moment request) := by
  unfold Registration.written
  cases Http.JsonBody.read Registration.record request with
  | error => exact shares.unchanged
  | ok slots =>
    simp only [Registration.register_fst_eq]
    split
    next => exact Database.createAccount_follow shares _ _ _
    next => exact shares.unchanged

section Answers
variable (site : Site) (moment : Moment) (request : Http.Request)

/-- A session is found at a time, by the check of what is presented. -/
theorem authenticate_eq_ok {site : Site} {clock : Option Nat} {headers : Http.Headers}
    {session : Authenticated} (found : (Session.authenticate site clock headers).2 = .ok session) :
    ∃ now, clock = some now ∧
      (SessionServer.Session.validate site.policy.secret site.endpointStores headers now).2 =
        .ok session := by
  cases clock with
  | none => cases found
  | some now => exact ⟨now, rfl, found⟩

theorem authenticated_snd (respond : Authenticated → Http.Response) :
    (Session.authenticated site moment request respond).2 =
      match (Session.authenticate site moment.clock request.headers).2 with
      | .ok session => respond session
      | .error error => Http.Refusal.ofSession error site.policy.secureCookies := by
  unfold Session.authenticated
  split
  next good => rw [good]
  next bad => rw [bad]

theorem logout_snd :
    (Session.logout site moment request).2 =
      match (Session.endSession site moment.clock request.headers).2 with
      | .ok () =>
          { status := 200, contentType := some "application/json"
            setCookie :=
              some ("session_token=; HttpOnly; SameSite=Strict; Path=/; Max-Age=0" ++
                (if site.policy.secureCookies then "; Secure" else ""))
            body := "\x7b\"success\":true\x7d" }
      | .error error => Http.Refusal.ofSession error site.policy.secureCookies := by
  unfold Session.logout
  split
  next done =>
    rw [done, ← Credential.Cookie.clearing_eq]
    rfl
  next failed => rw [failed]

end Answers

variable {moment : Moment} {request : Http.Request}

/-- Two sites of one policy give the same answer to a request that does not count against a limit, if
they find the same of its session. -/
theorem handle_snd_congr {first second : Site} (policy : second.policy = first.policy)
    (unlimited : ¬ request.IsLimited)
    (validated : ∀ now, moment.clock = some now →
      (SessionServer.Session.validate first.policy.secret first.endpointStores request.headers now).2 =
        (SessionServer.Session.validate first.policy.secret second.endpointStores request.headers now).2)
    (loggedOut : ∀ now, moment.clock = some now →
      (SessionServer.Session.logout first.policy.secret first.endpointStores request.headers now).2 =
        (SessionServer.Session.logout first.policy.secret second.endpointStores request.headers now).2) :
    (handle first moment request).2 = (handle second moment request).2 := by
  have authenticated : (Session.authenticate first moment.clock request.headers).2 =
      (Session.authenticate second moment.clock request.headers).2 := by
    cases reads : moment.clock with
    | none => rfl
    | some now => simp only [Session.authenticate, policy, validated now reads]
  have ended : (Session.endSession first moment.clock request.headers).2 =
      (Session.endSession second moment.clock request.headers).2 := by
    cases reads : moment.clock with
    | none => rfl
    | some now => simp only [Session.endSession, policy, loggedOut now reads]
  have routed : (route first moment request).2 = (route second moment request).2 := by
    unfold route
    cases asked : request.resource? with
    | none => rfl
    | some resource =>
      cases resource with
      | users => exact absurd (.inl asked) unlimited
      | session =>
        have unposted : request.method ≠ "POST" := fun posted => unlimited (.inr ⟨asked, posted⟩)
        simp only [session, if_neg unposted]
        split
        next =>
          simp only [Session.current, authenticated_snd, policy, authenticated]
        next =>
          split
          next => simp only [logout_snd, policy, ended]
          next => rfl
      | socket =>
        simp only [socket]
        split
        next => simp only [Session.socket, authenticated_snd, policy, authenticated]
        next => rfl
  simp only [handle, routed]

/-- A registration that is refused has written nothing. -/
theorem Registration.register_of_refused {database changed : Database} {form : Registration.Form}
    {refusal : Http.Refusal}
    (refused : Registration.register database moment form = (changed, .error refusal)) :
    changed = database := by
  unfold Registration.register at refused
  simp only at refused
  split at refused
  next => exact (congrArg Prod.fst refused).symm
  next =>
    split at refused
    next => cases refused
    next failed =>
      cases refused
      exact Database.createAccount_of_failed failed
    next failed =>
      cases refused
      exact Database.createAccount_of_failed failed

theorem Registration.answer_of_failed {site : Site}
    (failed : (Registration.answer site moment request).2.status ≠ 201) :
    (Registration.answer site moment request).1.stores = site.stores := by
  unfold Registration.answer at failed ⊢
  cases read : Http.JsonBody.read Registration.record request with
  | error => rfl
  | ok slots =>
    simp only [read] at failed ⊢
    rcases registers : Registration.register site.stores.database moment (.ofSlots slots) with
      ⟨database, refusal | principal⟩
    · rw [Registration.register_of_refused registers]
      rfl
    · rw [registers] at failed
      exact absurd rfl failed

/-- What a request may have done to the stores, and what its answer is then: it has asked for a token at
most, or it has registered an account, or it has revoked the token that it presents. -/
inductive Effect (secret : Bytes) (moment : Moment) (request : Http.Request) (before : Stores)
    (response : Http.Response) : Stores → Prop where
  | asked (call : Option Call)
      (only : ∀ put, call = some put → ∃ token now, moment.clock = some now ∧ put = .ask token now)
      (unregistered :
        ¬ (request.resource? = some .users ∧ request.method = "POST" ∧ response.status = 201)) :
      Effect secret moment request before response (before.receive call)
  | registered {slots : Json.Slots String} {accounts : Accounts} {account : Account}
      (asked : request.resource? = some .users) (posted : request.method = "POST")
      (read : Http.JsonBody.read Registration.record request = .ok slots)
      (there : before.database.tables.accounts = some accounts)
      (new : account = (Registration.Form.ofSlots slots).account moment.salt (accounts.lastId + 1))
      (answered : response = Http.Response.json 201 account.principal.document) :
      Effect secret moment request before response
        { before with
          database := before.database.setAccounts
            { rows := accounts.rows ++ [account], lastId := account.id } }
  | revoked {token : String} {now : Nat} {claims : Token.Claims} {register : Revocation.Register}
      (reads : moment.clock = some now) (asked : request.resource? = some .session)
      (deleted : request.method = "DELETE")
      (presented : Credential.presented? request.headers = some token)
      (read : Token.read secret token now = .ok claims)
      (serves : before.Serves register) (succeeded : response.status = 200) :
      Effect secret moment request before response
        (before.setRegister (before.backing.revoke register token claims.expiresAt))

/-- The call of a request asks for a token, or it revokes the token of a session that is ended. -/
theorem call?_cases {secret : Bytes} {call : Call} (called : call? secret moment request = some call) :
    (∃ token now, moment.clock = some now ∧ call = .ask token now) ∨
      request.resource? = some .session ∧ request.method = "DELETE" ∧
        ∃ now, moment.clock = some now ∧ logoutCall? secret request.headers now = some call := by
  have checks (called : moment.clock.bind (checkCall? request.headers) = some call) :
      ∃ token now, moment.clock = some now ∧ call = .ask token now := by
    obtain ⟨now, reads, asked⟩ := Option.bind_eq_some_iff.mp called
    obtain ⟨token, -, rfl⟩ := Option.map_eq_some_iff.mp asked
    exact ⟨token, now, reads, rfl⟩
  unfold call? at called
  split at called
  next asked =>
    split at called
    next => exact .inl (checks called)
    next =>
      split at called
      next deleted => exact .inr ⟨asked, deleted, Option.bind_eq_some_iff.mp called⟩
      next => cases called
  next =>
    split at called
    next => exact .inl (checks called)
    next => cases called
  next => cases called

variable (site : Site) (moment request)

/-- A request that ends a session is answered by the logout. -/
theorem handle_of_deleted (asked : request.resource? = some .session) (deleted : request.method = "DELETE") :
    handle site moment request = Session.logout site moment request := by
  have posted : request.method ≠ "POST" := by
    rw [deleted]
    decide
  have reads : ¬ (request.method = "GET" ∨ request.method = "HEAD") := by
    rw [deleted]
    decide
  rw [handle_eq_route deleted (by decide)]
  simp only [route, asked, session, if_neg posted, if_neg reads, if_pos deleted]

/-- A logout is answered with success exactly if it succeeds. -/
theorem logout_status :
    (Session.logout site moment request).2.status = 200 ↔
      (Session.endSession site moment.clock request.headers).2 = .ok () := by
  rw [logout_snd]
  cases (Session.endSession site moment.clock request.headers).2 with
  | ok => exact iff_of_true rfl rfl
  | error error =>
    refine iff_of_false ?_ nofun
    show (Http.Refusal.ofSession error site.policy.secureCookies).status ≠ 200
    unfold Http.Refusal.ofSession
    split
    next => exact (by decide : 503 ≠ 200)
    next => exact (by decide : 401 ≠ 200)

/-- A request that registers nobody and leaves the stores alone has asked for nothing. -/
theorem effect_of_stores (unwritten : (handle site moment request).1.stores = site.stores)
    (unregistered : ¬ (request.resource? = some .users ∧ request.method = "POST" ∧
      (handle site moment request).2.status = 201)) :
    Effect site.policy.secret moment request site.stores (handle site moment request).2
      (handle site moment request).1.stores := by
  rw [unwritten]
  exact .asked none nofun unregistered

theorem effect_of_users (asked : request.resource? = some .users) :
    Effect site.policy.secret moment request site.stores (handle site moment request).2
      (handle site moment request).1.stores := by
  by_cases posted : request.method = "POST"
  · by_cases succeeded : (handle site moment request).2.status = 201
    · obtain ⟨slots, limiter, database, principal, read, registers, answered⟩ :=
        handle_of_registered asked posted succeeded
      obtain ⟨-, id, created, rfl⟩ := Registration.register_eq_ok_iff.mp registers
      obtain ⟨accounts, table, serves, added, rfl⟩ := Database.createAccount_eq_ok_iff.mp created
      obtain ⟨-, -, rfl, rfl⟩ := Accounts.create_eq_ok_iff.mp added
      rw [answered]
      exact .registered asked posted read (Database.accounts_eq_ok_iff.mp serves.answered).2 rfl rfl
    · apply effect_of_stores
      · rw [handle_registration asked posted] at succeeded ⊢
        split at succeeded
        next granted =>
          rw [if_pos granted]
          exact Registration.answer_of_failed succeeded
        next refused => rw [if_neg refused]
      · exact fun registered => succeeded registered.2.2
  · apply effect_of_stores
    · rw [handle_fst_of_users asked]
      simp only [posted, and_false, if_false]
    · exact fun registered => posted registered.2.1

theorem effect_of_unlimited (unlimited : ¬ request.IsLimited) :
    Effect site.policy.secret moment request site.stores (handle site moment request).2
      (handle site moment request).1.stores := by
  have unregistered : ¬ (request.resource? = some .users ∧ request.method = "POST" ∧
      (handle site moment request).2.status = 201) :=
    fun registered => unlimited (.inl registered.1)
  rw [handle_fst_of_unlimited unlimited]
  show Effect _ _ _ _ _ (site.stores.receive (call? site.policy.secret moment request))
  cases called : call? site.policy.secret moment request with
  | none => exact .asked none nofun unregistered
  | some call =>
    rcases call?_cases called with asks | ⟨asked, deleted, now, reads, ends⟩
    · refine .asked (some call) ?_ unregistered
      rintro put ⟨⟩
      exact asks
    · obtain ⟨token, claims, presented, read, rfl⟩ := SessionServer.Session.logoutCall?_eq_some ends
      by_cases served : ∃ register, site.stores.Serves register
      · obtain ⟨register, serves⟩ := served
        have ended := SessionServer.Session.logout_of_read presented read
          (show site.endpointStores.Serves register from ⟨serves.answered, serves.writable⟩)
        have succeeded : (handle site moment request).2.status = 200 := by
          rw [handle_of_deleted moment request site asked deleted, logout_status, reads]
          exact congrArg Prod.snd ended
        rw [Stores.receive_of_serves serves]
        exact .revoked reads asked deleted presented read serves succeeded
      · rw [Stores.receive_of_not_serves (not_exists.mp served)]
        exact .asked none nofun unregistered

/-- Every request has one of the effects that are said. -/
theorem handle_effect :
    Effect site.policy.secret moment request site.stores (handle site moment request).2
      (handle site moment request).1.stores := by
  by_cases limited : request.IsLimited
  · rcases limited with asked | ⟨asked, posted⟩
    · exact effect_of_users moment request site asked
    · apply effect_of_stores
      · rw [handle_fst_of_login asked posted]
      · intro registered
        cases asked.symm.trans registered.1
  · exact effect_of_unlimited moment request site limited

end Endpoint

end SessionServer
