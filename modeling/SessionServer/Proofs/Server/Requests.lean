import SessionServer.Proofs.Endpoint.Effects
import SessionServer.Proofs.Server.Restart
import SessionServer.Proofs.Server.SignIn
import SessionServer.Proofs.Session.Alike

/-!
What requests write. A request whose answer tells of a failure leaves all that is kept as it was, short of
revocations in memory that have ended. Accounts are only added, by the registrations that succeed, and
tokens are only revoked by those who end a session with them.
-/

namespace SessionServer

namespace Session.Stores
open Revocation (Call)

variable {stores : Stores} {call : Option Call}

theorem IsDistinct.receive (distinct : stores.IsDistinct) : (stores.receive call).IsDistinct := by
  intro changed kept
  rcases stores.entries?_receive call with same | ⟨asked, register, -, there, written⟩
  · exact distinct changed (same ▸ kept)
  · rw [written] at kept
    cases kept
    exact Call.distinct_apply (distinct register there)

/-- A question about a token drops an entry that has ended from memory at most, and writes nothing else.
Without a time nothing is asked. -/
theorem receive_ask (distinct : stores.backing = .memory → stores.IsDistinct) {clock : Option Nat}
    (asks : ∀ put, call = some put → ∃ token now, clock = some now ∧ put = .ask token now) :
    ∃ memory, stores.receive call = { stores with memory := memory } ∧
      memory.Sublist stores.memory ∧
      (∀ now, clock = some now → memory.live now = stores.memory.live now) ∧
      (stores.backing = .database ∨ clock = none → memory = stores.memory) := by
  have unchanged : ∃ memory, stores = { stores with memory := memory } ∧
      memory.Sublist stores.memory ∧
      (∀ now, clock = some now → memory.live now = stores.memory.live now) ∧
      (stores.backing = .database ∨ clock = none → memory = stores.memory) :=
    ⟨stores.memory, rfl, List.Sublist.refl _, fun _ _ => rfl, fun _ => rfl⟩
  cases call with
  | none => exact unchanged
  | some put =>
    obtain ⟨token, now, reads, rfl⟩ := asks put rfl
    cases answered : stores.register with
    | error fault =>
      rw [receive_of_fault answered]
      exact unchanged
    | ok register =>
      rw [receive_ask_of_register answered]
      obtain inMemory | inDatabase : stores.backing = .memory ∨ stores.backing = .database := by
        cases stores.backing with
        | memory => exact .inl rfl
        | database => exact .inr rfl
      · have there := (register_eq_ok_iff.mp answered).2
        have same : register = stores.memory := by
          simp only [entries?, inMemory, Option.some.injEq] at there
          exact there.symm
        subst same
        refine ⟨(stores.backing.isRevoked stores.memory token now).1, ?_,
          Revocation.Backing.sublist_isRevoked _ _ _ _, ?_, ?_⟩
        · simp only [setRegister, inMemory]
        · intro time again
          cases reads.symm.trans again
          rw [inMemory]
          exact Revocation.Backing.live_isRevoked (distinct inMemory _ there) token now
        · rintro (inDatabase | untimed)
          · cases inMemory.symm.trans inDatabase
          · cases reads.symm.trans untimed
      · have same : (stores.backing.isRevoked register token now).1 = register := by
          rw [inDatabase, Revocation.Backing.isRevoked_fst_database]
        rw [same, setRegister_of_register answered]
        exact unchanged

end Session.Stores

namespace Server
open Revocation (digest)
open Session (Stores)

namespace State

variable {state : State}

/-- The revocations that a server keeps, in reach or not. -/
def revocations (state : State) : Revocation.Register := state.site.stores.entries?.getD []

/-- What a request may have done to what a server keeps, by its answer. -/
structure WritesOnSuccess (before after : State) (moment : Endpoint.Moment) (asked : Http.Request)
    (response : Http.Response) : Prop where
  /-- The table of accounts changes with a registration that is answered with success, and only then. -/
  accounts_iff : after.site.stores.database.tables.accounts ≠ before.site.stores.database.tables.accounts ↔
    asked.resource? = some .users ∧ asked.method = "POST" ∧ response.status = 201
  /-- It has one more row then, for the account that the answer shows. -/
  registered : asked.resource? = some .users → asked.method = "POST" → response.status = 201 →
    ∃ slots accounts account shown,
      Http.JsonBody.read Endpoint.Registration.record asked = .ok slots ∧
      before.site.stores.database.tables.accounts = some accounts ∧
      account = (Endpoint.Registration.Form.ofSlots slots).account moment.salt (accounts.lastId + 1) ∧
      after.site.stores.database.tables.accounts =
        some { rows := accounts.rows ++ [account], lastId := account.id } ∧
      account.principal.Shows shown ∧
      response = { status := 201, contentType := some "application/json", body := shown }
  /-- A revocation is new or ends later only where a session was ended with success, and then it is of the
  token that was presented. -/
  revoked : ∀ entry ∈ after.revocations, entry ∉ before.revocations →
    asked.resource? = some .session ∧ asked.method = "DELETE" ∧ response.status = 200 ∧
      ∃ token now claims, Credential.presented? asked.headers = some token ∧ moment.clock = some now ∧
        Token.read before.setup.policy.secret token now = .ok claims ∧
        entry = (digest token, before.setup.backing.kept claims.expiresAt)
  /-- A request that fails leaves the stores as they were, but for revocations in memory that have ended. -/
  failed : 400 ≤ response.status → ∃ memory,
    after.site.stores = { before.site.stores with memory := memory } ∧
      memory.Sublist before.site.stores.memory ∧
      (∀ now, moment.clock = some now → memory.live now = before.site.stores.memory.live now) ∧
      (before.setup.backing = .database ∨ moment.clock = none → memory = before.site.stores.memory)

theorem isDistinct_of_start {setup : Setup} {files remaining : Database.Files}
    (started : start setup files = (remaining, .ok state)) (inMemory : setup.backing = .memory) :
    state.site.stores.IsDistinct := by
  unfold start at started
  split at started
  next => cases started
  next =>
    cases started
    intro register kept
    simp only [Stores.entries?, freshStores, inMemory, Option.some.injEq] at kept
    rw [← kept]
    exact List.Pairwise.nil

theorem IsSettled.step_isDistinct (settled : state.IsSettled) (distinct : state.site.stores.IsDistinct)
    (operation : Operation) : (state.step operation).1.site.stores.IsDistinct := by
  intro register kept
  rcases settled.step_entries operation with same | missing | ⟨-, empty⟩
  · exact distinct.receive register (same ▸ kept)
  · rw [missing] at kept
    cases kept
  · rw [empty] at kept
    cases kept
    exact List.Pairwise.nil

theorem IsSettled.run_isDistinct (settled : state.IsSettled) (distinct : state.site.stores.IsDistinct)
    (operations : List Operation) : (state.run operations).1.site.stores.IsDistinct := by
  induction operations generalizing state with
  | nil => exact distinct
  | cons operation rest ih => exact ih settled.step (settled.step_isDistinct distinct operation)

theorem IsSettled.request_writesOnSuccess (settled : state.IsSettled)
    (distinct : state.site.stores.backing = .memory → state.site.stores.IsDistinct)
    (moment : Endpoint.Moment) (asked : Http.Request) :
    state.WritesOnSuccess (state.step (.request moment asked)).1 moment asked
      (Endpoint.handle state.site moment asked).2 := by
  have effect := Endpoint.handle_effect moment asked state.site
  rw [settled.policy] at effect
  rw [step_request_fst]
  generalize (Endpoint.handle state.site moment asked).2 = response at effect ⊢
  generalize (Endpoint.handle state.site moment asked).1 = site at effect ⊢
  rcases site with ⟨policy, stores, logins, registrations⟩
  simp only at effect
  cases effect with
  | asked call only unregistered =>
    obtain ⟨memory, written, sublist, live, kept⟩ := Stores.receive_ask distinct only
    refine ⟨?_, ?_, ?_, ?_⟩
    · refine iff_of_false ?_ unregistered
      intro changed
      apply changed
      rw [written]
    · exact fun users posted succeeded => absurd ⟨users, posted, succeeded⟩ unregistered
    · intro entry member new
      exfalso
      rcases state.site.stores.entries?_receive call with same | ⟨put, register, called, there, changed⟩
      · exact new (by rwa [revocations, ← same])
      · obtain ⟨token, now, -, rfl⟩ := only put called
        simp only [revocations, changed, there, Option.getD_some] at member new
        rcases Revocation.Call.mem_of_mem_apply member with old | ⟨_, _, revokes, -⟩
        · exact new old
        · cases revokes
    · intro _
      refine ⟨memory, written, sublist, live, ?_⟩
      rw [← settled.backing]
      exact kept
  | @registered slots accounts account users posted read there new answered =>
    refine ⟨?_, ?_, ?_, ?_⟩
    · refine iff_of_true ?_ ⟨users, posted, congrArg Http.Response.status answered⟩
      intro same
      have rows := congrArg Accounts.rows (Option.some.inj (same.trans there))
      exact List.cons_ne_nil account [] (List.append_right_eq_self.mp rows)
    · exact fun _ _ _ => ⟨slots, accounts, account, _, read, there, new, rfl,
        account.principal.shows_document, answered⟩
    · exact fun entry member new => absurd member new
    · intro failure
      rw [answered] at failure
      exact absurd (show 400 ≤ 201 from failure) (by decide)
  | @revoked token now claims register reads session deleted presented read serves succeeded =>
    have there := (Stores.register_eq_ok_iff.mp serves.answered).2
    refine ⟨?_, ?_, ?_, ?_⟩
    · refine iff_of_false ?_ ?_
      · intro changed
        apply changed
        obtain ⟨_, _, framed⟩ :=
          state.site.stores.receive_frame (some (.revoke token claims.expiresAt))
        rw [Stores.receive_of_serves serves, Revocation.Call.apply] at framed
        rw [framed]
      · rintro ⟨users, -⟩
        cases users.symm.trans session
    · intro users
      cases users.symm.trans session
    · intro entry member new
      simp only [revocations, Stores.entries?_setRegister, there, Option.getD_some] at member new
      rw [settled.backing] at member
      have own := (Revocation.Register.mem_of_mem_record member).resolve_left new
      exact ⟨session, deleted, succeeded, token, now, claims, presented, reads, read, own⟩
    · intro failure
      rw [succeeded] at failure
      exact absurd failure (by decide)

/-- Requests write only on success, and only what they should, whatever has been done to the server before:
whether or not its stores answer, and whether or not its limits are reached. A registration that succeeds adds
one account, the end of a session revokes its token until the token expires, or until the last time that
the register can keep, and nothing else is written but that what has ended may go from memory. -/
theorem requests_write_on_success {setup : Setup} {files remaining : Database.Files}
    (started : start setup files = (remaining, .ok state)) (operations : List Operation)
    (moment : Endpoint.Moment) (asked : Http.Request) :
    let before := (state.run operations).1
    ∃ response, (before.step (.request moment asked)).2 = .response response ∧
      before.WritesOnSuccess (before.step (.request moment asked)).1 moment asked response := by
  intro before
  have settled := (isSettled_of_start started).run operations
  have distinct (inMemory : before.site.stores.backing = .memory) : before.site.stores.IsDistinct := by
    rw [settled.backing, run_setup, setup_of_start started] at inMemory
    exact (isSettled_of_start started).run_isDistinct (isDistinct_of_start started inMemory) operations
  exact ⟨_, step_request before moment asked,
    settled.request_writesOnSuccess distinct moment asked⟩

/-- A request that ends the session of a token. -/
def deletion (headers : Http.Headers) : Http.Request :=
  { method := "DELETE", target := "/api/session", headers := headers }

/-- Who ends a session with a token that is read is told so, and the token is revoked. -/
theorem step_deletion {headers : Http.Headers} {token : String} {claims : Token.Claims}
    {register : Revocation.Register} (moment : Endpoint.Moment) {now : Nat}
    (reads : moment.clock = some now) (presented : Credential.presented? headers = some token)
    (read : Token.read state.site.policy.secret token now = .ok claims)
    (serves : state.site.stores.Serves register) :
    (Endpoint.handle state.site moment (deletion headers)).2.status = 200 ∧
      (state.step (.request moment (deletion headers))).1.revocations =
        state.site.stores.backing.revoke register token claims.expiresAt := by
  have place : (deletion headers).resource? = some .session :=
    show Http.Resource.ofPath? (Http.targetPath "/api/session") = some .session by decide
  have ended : Session.logout state.site.policy.secret state.site.endpointStores headers now =
      (_, .ok ()) :=
    Session.logout_of_read presented read (show state.site.endpointStores.Serves register from
      ⟨serves.answered, serves.writable⟩)
  have unlimited : ¬ (deletion headers).IsLimited := by
    rintro (users | ⟨-, posted⟩)
    · cases users.symm.trans place
    · exact absurd posted (by decide : "DELETE" ≠ "POST")
  have called : Endpoint.call? state.site.policy.secret moment (deletion headers) =
      some (.revoke token claims.expiresAt) := by
    have ends : ¬ ((deletion headers).method = "GET" ∨ (deletion headers).method = "HEAD") :=
      show ¬ ("DELETE" = "GET" ∨ "DELETE" = "HEAD") by decide
    simp only [Endpoint.call?, place, if_neg ends, reads]
    exact Session.logoutCall?_of_read presented read
  constructor
  · rw [Endpoint.handle_of_deleted moment (deletion headers) state.site place rfl, Endpoint.logout_status,
      reads]
    exact congrArg Prod.snd ended
  · rw [step_request_fst, Endpoint.handle_fst_of_unlimited unlimited, called, revocations,
      Stores.receive_of_serves serves, Stores.entries?_setRegister]
    rfl

/-- A registration with a server on a new file adds the account that its answer shows, and the end of a
session afterwards adds the revocation of the token that was presented; it leaves the account alone. -/
theorem requests_write_on_success_onNewFile :
    let registered := (onNewFile.step (.request firstMoment registrationRequest)).1
    ∃ shown headers,
      registeredAccount.principal.Shows shown ∧
      (onNewFile.step (.request firstMoment registrationRequest)).2 =
        .response { status := 201, contentType := some "application/json", body := shown } ∧
      registered.site.stores.database.tables.accounts = some { rows := [registeredAccount], lastId := 1 } ∧
      Credential.presented? headers = some tokenOfAnHour ∧
      (registered.step (.request firstMoment (deletion headers))).1.revocations =
        [(digest tokenOfAnHour, 1700003600)] ∧
      (registered.step (.request firstMoment (deletion headers))).1.site.stores.database.tables.accounts =
        registered.site.stores.database.tables.accounts := by
  intro registered
  obtain ⟨headers, presented⟩ := presented?_tokenOfAnHour
  have empty : onNewFile.site.stores.database.Serves .empty :=
    ⟨Database.eq_ok_of_toOption (by decide +kernel), rfl⟩
  obtain ⟨limiter, stepped⟩ := step_registrationRequest_of_empty empty rfl
  obtain ⟨response, answered, writes⟩ :=
    requests_write_on_success start_onNewFile [] firstMoment registrationRequest
  have created : response = Http.Response.json 201 registeredAccount.principal.document :=
    Outcome.response.inj (answered.symm.trans (congrArg Prod.snd stepped))
  obtain ⟨slots, accounts, account, shown, read, there, rfl, new, shows, told⟩ :=
    writes.registered (by decide) rfl (congrArg Http.Response.status created)
  obtain ⟨others, readForm, filled⟩ := Endpoint.Registration.read_post signUp (by decide +kernel)
  cases read.symm.trans readForm
  cases there.symm.trans (Database.accounts_eq_ok_iff.mp empty.answered).2
  rw [filled] at new shows
  have serves : registered.site.stores.Serves [] := by
    show Stores.Serves (onNewFile.step (.request firstMoment registrationRequest)).1.site.stores []
    rw [stepped]
    exact ⟨rfl, fun _ => rfl⟩
  have policy : registered.site.policy = onNewFile.setup.policy := by
    show (onNewFile.step (.request firstMoment registrationRequest)).1.site.policy = _
    rw [stepped]
    rfl
  have backing : registered.site.stores.backing = .database := by
    show (onNewFile.step (.request firstMoment registrationRequest)).1.site.stores.backing = _
    rw [stepped]
    rfl
  have good : Token.read registered.site.policy.secret tokenOfAnHour 1700000000 =
      .ok Token.sessionOfAnHour := by
    rw [policy]
    exact Token.read_of_verify? verify?_tokenOfAnHour _
  obtain ⟨-, revoked⟩ := step_deletion firstMoment rfl presented good serves
  rw [backing] at revoked
  obtain ⟨_, _, writesLater⟩ := requests_write_on_success start_onNewFile
    [.request firstMoment registrationRequest] firstMoment (deletion headers)
  refine ⟨shown, headers, shows, answered.trans (congrArg Outcome.response told), new, presented, revoked, ?_⟩
  by_contra changed
  obtain ⟨users, -⟩ := writesLater.accounts_iff.mp changed
  have place : (deletion headers).resource? = some .session :=
    show Http.Resource.ofPath? (Http.targetPath "/api/session") = some .session by decide
  cases users.symm.trans place

/-- The claims of a session that lasts as long as a token can say. -/
def endlessSession : Token.Claims := { Token.sessionOfAnHour with expiresAt := Text.Decimal.maxWord }

def endlessToken : String := String.ofList (Token.sign [0x6B] endlessSession)

/-- The end of a session that lasts longer than the database can say is not written as the token says it,
but as the last time that can be written. -/
theorem revoked_until_last_time_onNewFile :
    ∃ asked : Http.Request, asked.resource? = some .session ∧ asked.method = "DELETE" ∧
      Credential.presented? asked.headers = some endlessToken ∧
      Token.read onNewFile.setup.policy.secret endlessToken 1700000000 = .ok endlessSession ∧
      (Endpoint.handle onNewFile.site firstMoment asked).2.status = 200 ∧
      (onNewFile.step (.request firstMoment asked)).1.revocations =
        [(digest endlessToken, Text.Decimal.maxSigned)] ∧
      endlessSession.expiresAt ≠ Text.Decimal.maxSigned := by
  obtain ⟨headers, presented⟩ := presented?_sign [0x6B] endlessSession
  have verified : Token.verify? [0x6B] endlessToken = some endlessSession :=
    Token.verify?_sign [0x6B] (by decide) (by decide) (by decide)
  have read : Token.read onNewFile.site.policy.secret endlessToken 1700000000 = .ok endlessSession :=
    Token.read_of_verify? verified _
  have serves : onNewFile.site.stores.Serves [] := ⟨rfl, fun _ => rfl⟩
  have place : (deletion headers).resource? = some .session :=
    show Http.Resource.ofPath? (Http.targetPath "/api/session") = some .session by decide
  obtain ⟨succeeded, revoked⟩ := step_deletion firstMoment rfl presented read serves
  have last : Revocation.Backing.database.kept Text.Decimal.maxWord = Text.Decimal.maxSigned := by decide
  refine ⟨deletion headers, place, rfl, presented, read, succeeded, ?_, by decide⟩
  rw [revoked, ← last]
  rfl

end State

end Server

end SessionServer
