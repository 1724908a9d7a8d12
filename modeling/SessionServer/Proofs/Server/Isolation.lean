import SessionServer.Proofs.Revocation.Separation
import SessionServer.Proofs.Server.Restart
import SessionServer.Proofs.Session.Matching
import SessionServer.Proofs.Token.Issue

/-!
Sessions do not meddle with each other. Different sessions have different tokens, and whatever is done with
tokens of other digests is not seen in what is answered about a token.
-/

namespace SessionServer

/-- The token that a request asks about or ends the session of. -/
def Http.Request.token? (request : Request) : Option String :=
  match request.resource? with
  | some .session =>
      if request.method = "GET" ∨ request.method = "HEAD" ∨ request.method = "DELETE" then
        Credential.presented? request.headers
      else none
  | some .socket =>
      if request.method = "GET" ∨ request.method = "HEAD" then Credential.presented? request.headers
      else none
  | _ => none

theorem Http.Request.presented_of_token? {request : Request} {token : String}
    (on : request.token? = some token) : Credential.presented? request.headers = some token := by
  unfold token? at on
  split at on
  next =>
    split at on
    next => exact on
    next => cases on
  next =>
    split at on
    next => exact on
    next => cases on
  next => cases on

namespace Server
open Revocation (Call digest)
open Revocation.Register (SameUnder)
open Session (People Stores)

/-- The token that an operation looks up, checks or revokes. -/
def Operation.token? : Operation → Option String
  | .revoke token _ | .isRevoked token _ | .validateToken token _ => some token
  | .recheck session _ => some session.token
  | .validate headers _ | .logout headers _ => Credential.presented? headers
  | .request _ asked => asked.token?
  | _ => none

/-- Whether a run is another one without some of its operations on tokens that do not share the digest of
a token. -/
inductive LeavesOut (token : String) : List Operation → List Operation → Prop where
  | nil : LeavesOut token [] []
  | keep {operations fewer : List Operation} (operation : Operation)
      (rest : LeavesOut token operations fewer) :
      LeavesOut token (operation :: operations) (operation :: fewer)
  | leave {operations fewer : List Operation} {operation : Operation} {other : String}
      (on : operation.token? = some other) (apart : digest other ≠ digest token)
      (rest : LeavesOut token operations fewer) : LeavesOut token (operation :: operations) fewer

namespace Operation

variable {operation : Operation} {token : String} {secret : Bytes}

theorem key?_of_checkCall? {headers : Http.Headers} {now : Nat} {call : Call}
    (presented : Credential.presented? headers = some token)
    (called : Session.checkCall? headers now = some call) : call.key? = some (digest token) := by
  rw [Session.checkCall?, presented] at called
  cases called
  rfl

theorem key?_of_logoutCall? {headers : Http.Headers} {now : Nat} {call : Call}
    (presented : Credential.presented? headers = some token)
    (called : Session.logoutCall? secret headers now = some call) :
    call.key? = some (digest token) := by
  obtain ⟨other, claims, same, -, rfl⟩ := Session.logoutCall?_eq_some called
  cases presented.symm.trans same
  rfl

/-- A request on a token does not count against a limit. -/
theorem not_isLimited_of_token? {asked : Http.Request} (on : asked.token? = some token) :
    ¬ asked.IsLimited := by
  rintro (users | ⟨session, posted⟩)
  · simp [Http.Request.token?, users] at on
  · simp [Http.Request.token?, session, posted] at on

theorem key?_of_request {moment : Endpoint.Moment} {asked : Http.Request}
    (on : asked.token? = some token) {call : Call}
    (called : Endpoint.call? secret moment asked = some call) : call.key? = some (digest token) := by
  unfold Http.Request.token? at on
  unfold Endpoint.call? at called
  cases place : asked.resource? with
  | none => simp [place] at on
  | some resource =>
    simp only [place] at on called
    have checked (presented : Credential.presented? asked.headers = some token)
        (called : moment.clock.bind (Session.checkCall? asked.headers) = some call) :
        call.key? = some (digest token) := by
      obtain ⟨now, -, called⟩ := Option.bind_eq_some_iff.mp called
      exact key?_of_checkCall? presented called
    cases resource with
    | users => cases on
    | session =>
      simp only at on called
      split at on
      next =>
        split at called
        next => exact checked on called
        next =>
          split at called
          next =>
            obtain ⟨now, -, called⟩ := Option.bind_eq_some_iff.mp called
            exact key?_of_logoutCall? on called
          next => cases called
      next => cases on
    | socket =>
      simp only at on called
      split at on
      next reads =>
        rw [if_pos reads] at called
        exact checked on called
      next => cases on

/-- The call of an operation on a token is for its digest. -/
theorem key?_of_call? (on : operation.token? = some token) {call : Call}
    (called : operation.call? secret = some call) : call.key? = some (digest token) := by
  cases operation with
  | revoke | isRevoked | validateToken | recheck =>
    cases on
    cases called
    rfl
  | validate headers now => exact key?_of_checkCall? on called
  | logout headers now => exact key?_of_logoutCall? on called
  | request moment asked => exact key?_of_request on called
  | _ => cases on

end Operation

/-- The people that are asked change alike, however often they were asked. -/
theorem Operation.uncounted_put (people : People) (principal : Principal) :
    (put people principal).uncounted = (put people.uncounted principal).uncounted := by
  cases people <;> rfl

theorem Operation.uncounted_remove (people : People) (id : Int) :
    (remove people id).1.uncounted = (remove people.uncounted id).1.uncounted := by
  cases people <;> rfl

theorem Operation.uncounted_setUnreachable (people : People) (unreachable : Bool) :
    (setUnreachable people unreachable).uncounted =
      (setUnreachable people.uncounted unreachable).uncounted := by
  cases people <;> rfl

namespace State

/-- Whether two servers are the same but for their revocations under other digests. -/
structure Matches (key : Bytes) (first second : State) : Prop where
  setup : second.setup = first.setup
  path : second.site.stores.database.path = first.site.stores.database.path
  logins : second.site.logins = first.site.logins
  registrations : second.site.registrations = first.site.registrations
  stores : first.site.stores.Matches (SameUnder key) second.site.stores

variable {key : Bytes} {first second : State} {operation : Operation} {token : String}

theorem matches_refl (state : State) : state.Matches key state :=
  ⟨rfl, rfl, rfl, rfl, Stores.matches_refl fun _ _ => rfl⟩

/-- An operation on a token puts its call to the register, and may count a question besides. -/
theorem step_of_token? {state : State} (policy : state.site.policy = state.setup.policy)
    (on : operation.token? = some token) :
    ∃ people, people.uncounted = state.site.stores.people.uncounted ∧
      (state.step operation).1 = state.withStores
        { state.site.stores.receive (operation.call? state.setup.policy.secret) with
          people := people } := by
  cases operation with
  | request moment asked =>
    have call : Endpoint.call? state.site.policy.secret moment asked =
        Endpoint.call? state.setup.policy.secret moment asked := by rw [policy]
    have counted := state.site.stores.receive_people (Endpoint.call? state.setup.policy.secret moment asked)
    refine ⟨_, congrArg People.uncounted counted, ?_⟩
    rw [step_request_fst, Endpoint.handle_fst_of_unlimited (Operation.not_isLimited_of_token? on), call]
    rfl
  | revoke | isRevoked | validateToken | recheck | validate | logout =>
    exact state.step_of_onlyCalls trivial
  | _ => cases on

/-- An operation on a token of another digest leaves a server as it is, as far as can be told. -/
theorem Matches.leave (same : Matches key first second) (settled : first.IsSettled)
    (on : operation.token? = some token) (apart : digest token ≠ key) :
    Matches key (first.step operation).1 second := by
  obtain ⟨people, counted, written⟩ := step_of_token? settled.policy on
  have called : first.site.stores.Matches (SameUnder key)
      (first.site.stores.receive (operation.call? first.setup.policy.secret)) := by
    refine Stores.matches_receive (fun _ _ => rfl) ?_
    intro asked register called _
    exact (Call.under_apply_of_ne (Operation.key?_of_call? on called) apart).symm
  have back := called.symm fun _ _ => Eq.symm
  have stores : ({ first.site.stores.receive (operation.call? first.setup.policy.secret) with
      people := people } : Stores).Matches (SameUnder key) second.site.stores :=
    (back.withPeople counted.symm).trans same.stores fun _ _ _ => Eq.trans
  refine ⟨?_, ?_, ?_, ?_, ?_⟩
  · rw [step_setup, same.setup]
  · rw [settled.step_path, same.path]
  · rw [written]
    exact same.logins
  · rw [written]
    exact same.registrations
  · rw [written]
    exact stores

/-- A request to both servers leaves them matching. -/
theorem Matches.handle (same : Matches key first second) (settled : first.IsSettled)
    (otherSettled : second.IsSettled) (moment : Endpoint.Moment) (asked : Http.Request) :
    let one := (Endpoint.handle first.site moment asked).1
    let two := (Endpoint.handle second.site moment asked).1
    two.logins = one.logins ∧ two.registrations = one.registrations ∧
      one.stores.Matches (SameUnder key) two.stores := by
  intro one two
  by_cases limited : asked.IsLimited
  · rcases limited with users | ⟨session, posted⟩
    · simp only [one, two, Endpoint.handle_fst_of_users users, same.registrations]
      split
      next =>
        obtain ⟨accounts, written, otherWritten⟩ :=
          Endpoint.Registration.written_follow same.stores.database moment asked
        rw [written, otherWritten]
        exact ⟨same.logins, rfl, same.stores.withAccounts accounts⟩
      next => exact ⟨same.logins, rfl, same.stores⟩
    · simp only [one, two, Endpoint.handle_fst_of_login session posted, same.logins]
      exact ⟨trivial, same.registrations, same.stores⟩
  · have secret : second.site.policy.secret = first.site.policy.secret := by
      rw [otherSettled.policy, settled.policy, same.setup]
    simp only [one, two, Endpoint.handle_fst_of_unlimited limited, secret]
    refine ⟨same.logins, same.registrations, same.stores.receive ?_⟩
    exact fun asked _ _ _ related => Call.sameUnder_apply related

/-- A restart of both servers leaves them matching. -/
theorem Matches.restarted (same : Matches key first second) (settled : first.IsSettled) :
    first.restarted.Matches (SameUnder key) second.restarted := by
  have backing := settled.backing
  have entries := same.stores.entries
  refine ⟨?_, same.stores.unreachable, ⟨rfl, same.stores.database.writeFault, ?_⟩, same.stores.people, ?_⟩
  · exact congrArg Setup.backing same.setup
  · show second.site.stores.database.reopened.tables.accounts =
      first.site.stores.database.reopened.tables.accounts
    simp only [Database.reopened, same.path]
    split
    next => exact same.stores.database.accounts
    next => rfl
  · simp only [Stores.entries?, State.restarted, freshStores, Database.reopened, same.setup, same.path]
    simp only [Stores.entries?, same.stores.backing, backing] at entries
    cases kept : first.setup.backing with
    | memory => exact .some (SameUnder.refl key [])
    | database =>
      simp only [kept] at entries ⊢
      split
      next => exact entries
      next => exact .some (SameUnder.refl key [])

/-- The stores of both servers still match when their people have changed alike. -/
theorem Matches.withPeople (same : Matches key first second) {change : People → People}
    (uncounted : ∀ people, (change people).uncounted = (change people.uncounted).uncounted) :
    ({ first.site.stores with people := change first.site.stores.people } : Stores).Matches
      (SameUnder key) { second.site.stores with people := change second.site.stores.people } := by
  refine same.stores.withPeople ?_
  rw [uncounted, same.stores.people, ← uncounted]

/-- Every operation on both servers leaves them matching. -/
theorem Matches.step (same : Matches key first second) (lasting : first.IsLasting)
    (otherLasting : second.IsLasting) :
    Matches key (first.step operation).1 (second.step operation).1 := by
  have setup : (second.step operation).1.setup = (first.step operation).1.setup := by
    rw [step_setup, step_setup, same.setup]
  have path : (second.step operation).1.site.stores.database.path =
      (first.step operation).1.site.stores.database.path := by
    rw [otherLasting.settled.step_path, lasting.settled.step_path, same.path]
  have sites {one two : Endpoint.Site} (written : (first.step operation).1.site = one)
      (otherWritten : (second.step operation).1.site = two) (logins : two.logins = one.logins)
      (registrations : two.registrations = one.registrations)
      (stores : one.stores.Matches (SameUnder key) two.stores) :
      Matches key (first.step operation).1 (second.step operation).1 := by
    subst written otherWritten
    exact ⟨setup, path, logins, registrations, stores⟩
  have called (only : operation.OnlyCalls) :
      Matches key (first.step operation).1 (second.step operation).1 := by
    obtain ⟨people, counted, written⟩ := first.step_of_onlyCalls only
    obtain ⟨others, otherCounted, otherWritten⟩ := second.step_of_onlyCalls only
    rw [same.setup] at otherWritten
    have stores : Stores.Matches (SameUnder key)
        (first.site.stores.receive (operation.call? first.setup.policy.secret))
        (second.site.stores.receive (operation.call? first.setup.policy.secret)) :=
      same.stores.receive fun asked _ _ _ related => Call.sameUnder_apply related
    exact sites (congrArg State.site written) (congrArg State.site otherWritten) same.logins
      same.registrations
      (stores.withPeople (otherCounted.trans (same.stores.people.trans counted.symm)))
  have withStores {one two : Stores} (stores : one.Matches (SameUnder key) two)
      (written : (first.step operation).1.site = { first.site with stores := one })
      (otherWritten : (second.step operation).1.site = { second.site with stores := two }) :
      Matches key (first.step operation).1 (second.step operation).1 :=
    sites written otherWritten same.logins same.registrations stores
  cases operation with
  | restart =>
    have written : (first.step .restart).1.site =
        { policy := first.setup.policy, stores := first.restarted } := by
      show first.restart.1.site = _
      rw [lasting.restart_eq]
    have otherWritten : (second.step .restart).1.site =
        { policy := second.setup.policy, stores := second.restarted } := by
      show second.restart.1.site = _
      rw [otherLasting.restart_eq]
    exact sites written otherWritten rfl rfl (same.restarted lasting.settled)
  | request moment asked =>
    obtain ⟨logins, registrations, stores⟩ :=
      same.handle lasting.settled otherLasting.settled moment asked
    exact ⟨setup, path, logins, registrations, stores⟩
  | createAccount email displayName passwordHash =>
    obtain ⟨accounts, written, otherWritten⟩ :=
      Database.createAccount_follow same.stores.database email displayName passwordHash
    refine withStores (same.stores.withAccounts accounts) ?_ ?_
    · rw [← written]
      rfl
    · rw [← otherWritten]
      rfl
  | deleteAccount id =>
    obtain ⟨accounts, written, otherWritten⟩ := Database.deleteAccount_follow same.stores.database id
    refine withStores (same.stores.withAccounts accounts) ?_ ?_
    · rw [← written]
      rfl
    · rw [← otherWritten]
      rfl
  | lose loss =>
    cases loss with
    | accounts => exact withStores (same.stores.withAccounts none) rfl rfl
    | connections => exact withStores same.stores.close rfl rfl
    | revokedTokens => exact withStores same.stores.dropRevokedTokens rfl rfl
  | fail part =>
    cases part with
    | revocations => exact withStores (same.stores.withReach true same.stores.people) rfl rfl
    | people =>
      exact withStores (same.withPeople (Operation.uncounted_setUnreachable · true)) rfl rfl
  | repair part =>
    cases part with
    | revocations => exact withStores (same.stores.withReach false same.stores.people) rfl rfl
    | people =>
      exact withStores (same.withPeople (Operation.uncounted_setUnreachable · false)) rfl rfl
  | putPerson principal =>
    exact withStores (same.withPeople (Operation.uncounted_put · principal)) rfl rfl
  | removePerson id => exact withStores (same.withPeople (Operation.uncounted_remove · id)) rfl rfl
  | size | rows | issue | accountById | accountByEmail | accountPrincipal | files => exact same
  | _ => exact called trivial

/-- Both servers tell the same of an operation on a token of the digest. -/
theorem Matches.step_snd (same : Matches (digest token) first second) (settled : first.IsSettled)
    (otherSettled : second.IsSettled) (on : operation.token? = some token) :
    (first.step operation).2 = (second.step operation).2 := by
  have agree (backing : Revocation.Backing) (now : Nat) (one two : Revocation.Register)
      (related : SameUnder (digest token) one two) :
      one.holds (digest token) (backing.kept now) = two.holds (digest token) (backing.kept now) :=
    SameUnder.holds related _
  have presents {headers : Http.Headers} {other : String} (backing : Revocation.Backing) (now : Nat)
      (presented : Credential.presented? headers = some token)
      (too : Credential.presented? headers = some other) (one two : Revocation.Register)
      (related : SameUnder (digest token) one two) :
      one.holds (digest other) (backing.kept now) = two.holds (digest other) (backing.kept now) := by
    cases presented.symm.trans too
    exact agree backing now one two related
  have stores := same.stores
  cases operation with
  | revoke other expiry => simp only [State.step, Operation.onStores, stores.revoke_snd]
  | isRevoked other now =>
    cases on
    simp only [State.step, Operation.onStores, stores.isRevoked_snd (agree _ now)]
  | validateToken other now =>
    cases on
    simp only [State.step, Operation.onStores, same.setup, stores.validateToken_snd (agree _ now)]
  | recheck session now =>
    cases on
    simp only [State.step, Operation.onStores, stores.recheck_snd (agree _ now)]
  | validate headers now =>
    have found := stores.validate_snd (fun _ => presents _ now on) first.setup.policy.secret
    simp only [State.step, Operation.onStores, same.setup, found]
  | logout headers now =>
    simp only [State.step, Operation.onStores, same.setup, stores.logout_snd _ headers now]
  | request moment asked =>
    have unlimited := Operation.not_isLimited_of_token? on
    have policy : second.site.policy = first.site.policy := by
      rw [otherSettled.policy, settled.policy, same.setup]
    have endpoints : first.site.endpointStores.Matches (SameUnder (digest token))
        second.site.endpointStores := stores.withPeople rfl
    have presented : Credential.presented? asked.headers = some token := Http.Request.presented_of_token? on
    have validated (now : Nat) := endpoints.validate_snd (fun _ => presents _ now presented)
      first.site.policy.secret
    have loggedOut (now : Nat) := endpoints.logout_snd first.site.policy.secret asked.headers now
    rw [step_request, step_request,
      Endpoint.handle_snd_congr policy unlimited (fun now _ => validated now) (fun now _ => loggedOut now)]
  | _ => cases on

/-- What a run tells of a token: the outcomes of the operations on it. -/
def outcomesOn (state : State) (token : String) (operations : List Operation) : List Outcome :=
  ((operations.zip (state.run operations).2).filter fun told => told.1.token? = some token).map Prod.snd

theorem outcomesOn_cons (state : State) (token : String) (operation : Operation)
    (rest : List Operation) :
    state.outcomesOn token (operation :: rest) =
      if operation.token? = some token then
        (state.step operation).2 :: (state.step operation).1.outcomesOn token rest
      else (state.step operation).1.outcomesOn token rest := by
  by_cases on : operation.token? = some token
  · simp [outcomesOn, run_cons, on]
  · simp [outcomesOn, run_cons, on]

/-- A run and the run without some of its operations on tokens of other digests tell the same of a
token. -/
theorem Matches.outcomesOn_eq {operations fewer : List Operation} (leaves : LeavesOut token operations fewer)
    (same : Matches (digest token) first second) (lasting : first.IsLasting)
    (otherLasting : second.IsLasting) :
    first.outcomesOn token operations = second.outcomesOn token fewer := by
  induction leaves generalizing first second with
  | nil => rfl
  | keep operation rest ih =>
    rw [outcomesOn_cons, outcomesOn_cons, ih (same.step lasting otherLasting) lasting.step otherLasting.step]
    split
    next on => rw [same.step_snd lasting.settled otherLasting.settled on]
    next => rfl
  | leave on apart rest ih =>
    rw [outcomesOn_cons, if_neg]
    · exact ih (same.leave lasting.settled on apart) lasting.step otherLasting
    · intro own
      cases on.symm.trans own
      exact apart rfl

/-- Sessions are isolated from each other. Tokens that are issued for different claims are different. And
if operations on tokens of other digests than a token's are left out of a run, be they logouts,
revocations, checks, questions or requests, then each operation on this token that is left tells what it
told before. -/
theorem sessions_isolated {setup : Setup} {files remaining : Database.Files} {state : State}
    (started : start setup files = (remaining, .ok state)) {token : String}
    {operations fewer : List Operation} (leaves : LeavesOut token operations fewer) :
    (∀ (secret : Bytes) (one two : Principal) (oneStart oneDuration twoStart twoDuration : Nat)
        (oneId twoId : String) (oneIssued twoIssued : Token.Issued),
      Token.issue secret one oneStart oneDuration oneId = .ok oneIssued →
        Token.issue secret two twoStart twoDuration twoId = .ok twoIssued →
          Token.Claims.ofSession one oneId oneStart oneDuration ≠
              Token.Claims.ofSession two twoId twoStart twoDuration →
            oneIssued.token ≠ twoIssued.token) ∧
      state.outcomesOn token operations = state.outcomesOn token fewer := by
  constructor
  · intro secret one two _ _ _ _ _ _ _ _ issues otherIssues apart same
    exact apart (Token.ofSession_eq_of_issue issues otherIssues same)
  · have lasting := isLasting_of_start started
    exact (matches_refl state).outcomesOn_eq leaves lasting lasting

/-- A token that is revoked and asked about is told to be revoked and left so, also without what was done
with another token before and after. -/
theorem sessions_isolated_inMemory :
    let operations : List Operation :=
      [.revoke "hers" 8, .isRevoked "his" 5, .revoke "his" 9, .isRevoked "hers" 8, .isRevoked "his" 8]
    let fewer : List Operation := [.isRevoked "his" 5, .revoke "his" 9, .isRevoked "his" 8]
    digest "hers" ≠ digest "his" ∧
      inMemory.outcomesOn "his" operations = inMemory.outcomesOn "his" fewer ∧
      inMemory.outcomesOn "his" fewer = [.truth false, .done, .truth true] := by
  intro operations fewer
  have apart : digest "hers" ≠ digest "his" := by decide +kernel
  have leaves : LeavesOut "his" operations fewer :=
    .leave rfl apart (.keep _ (.keep _ (.leave rfl apart (.keep _ .nil))))
  have told : inMemory.outcomesOn "his" fewer = [.truth false, .done, .truth true] := by decide +kernel
  exact ⟨apart, (sessions_isolated start_memorySetup leaves).2, told⟩

end State

end Server

end SessionServer
