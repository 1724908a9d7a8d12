import SessionServer.Proofs.Server.Steps

/-!
Which operations make which calls to the register. Only a logout or a direct revocation revokes, and what
depends on the time asks at the reading of the clock.
-/

namespace SessionServer.Server
open Revocation (Call)
open Session (logoutCall?)

/-- The token that an operation logs out, and when. -/
def Operation.loggedOut? : Operation → Option (String × Nat)
  | .logout headers now => (Credential.presented? headers).map (·, now)
  | .request moment asked =>
      if asked.resource? = some .session ∧ asked.method = "DELETE" then
        moment.clock.bind fun now => (Credential.presented? asked.headers).map (·, now)
      else none
  | _ => none

namespace Operation

variable {operation : Operation} {secret : Bytes} {call : Call} {token : String} {now expiry : Nat}

/-- The calls that operations make. Apart from direct revocations only a logout revokes, and it revokes a
token that is read, until it expires; whatever else a call depends on the time for, its operation reads
the clock. -/
inductive Calls (secret : Bytes) (operation : Operation) : Call → Prop where
  | revoke {token : String} {expiry : Nat} (direct : operation = .revoke token expiry) :
      Calls secret operation (.revoke token expiry)
  | ask {token : String} {now : Nat} (reads : operation.reading? = some now) :
      Calls secret operation (.ask token now)
  | purge {now : Nat} (reads : operation.reading? = some now) : Calls secret operation (.purge now)
  | flush (direct : operation = .flush) : Calls secret operation .flush
  | logout {token : String} {now : Nat} {claims : Token.Claims}
      (out : operation.loggedOut? = some (token, now)) (reads : operation.reading? = some now)
      (read : Token.read secret token now = .ok claims) :
      Calls secret operation (.revoke token claims.expiresAt)

theorem calls_of_checkCall? {headers : Http.Headers} (reads : operation.reading? = some now)
    (called : Session.checkCall? headers now = some call) : Calls secret operation call := by
  obtain ⟨token, -, rfl⟩ := Option.map_eq_some_iff.mp called
  exact .ask reads

theorem calls_of_logoutCall? {headers : Http.Headers} (reads : operation.reading? = some now)
    (out : operation.loggedOut? = (Credential.presented? headers).map (·, now))
    (called : logoutCall? secret headers now = some call) : Calls secret operation call := by
  obtain ⟨token, claims, presented, read, rfl⟩ := Session.logoutCall?_eq_some called
  exact .logout (by rw [out, presented]; rfl) reads read

theorem calls_of_call? (called : operation.call? secret = some call) :
    Calls secret operation call := by
  cases operation with
  | revoke token expiry => cases called; exact .revoke rfl
  | isRevoked token now => cases called; exact .ask rfl
  | validateToken token now => cases called; exact .ask rfl
  | recheck session now => cases called; exact .ask rfl
  | purge now => cases called; exact .purge rfl
  | cleanUp now => cases called; exact .purge rfl
  | flush => cases called; exact .flush rfl
  | validate headers now => exact calls_of_checkCall? rfl called
  | logout headers now => exact calls_of_logoutCall? rfl rfl called
  | request moment asked =>
    have checks (called : moment.clock.bind (Session.checkCall? asked.headers) = some call) :
        Calls secret (.request moment asked) call := by
      obtain ⟨now, reads, called⟩ := Option.bind_eq_some_iff.mp called
      exact calls_of_checkCall? reads called
    simp only [call?, Endpoint.call?] at called
    split at called
    next session =>
      split at called
      next => exact checks called
      next =>
        split at called
        next deleted =>
          obtain ⟨now, reads, called⟩ := Option.bind_eq_some_iff.mp called
          exact calls_of_logoutCall? reads (by simp [loggedOut?, session, deleted, reads]) called
        next => cases called
    next =>
      split at called
      next => exact checks called
      next => cases called
    next => cases called
  | _ => cases called

/-- A call reads the clock when its operation does. -/
theorem Calls.reading? (calls : Calls secret operation call) (reads : call.reading? = some now) :
    operation.reading? = some now := by
  cases calls with
  | ask read | purge read => exact read.trans reads
  | _ => cases reads

/-- The time of a call is the one that its operation reads. -/
theorem reading?_of_call? (past : ∀ reading, operation.reading? = some reading → reading ≤ now) :
    ∀ reading, (operation.call? secret).bind Call.reading? = some reading → reading ≤ now := by
  intro reading reads
  obtain ⟨call, called, time⟩ := Option.bind_eq_some_iff.mp reads
  exact past reading ((calls_of_call? called).reading? time)

theorem call?_ne_revoke (silent : operation.loggedOut? = none)
    (indirect : ∀ token expiry, operation ≠ .revoke token expiry) (token : String) (expiry : Nat) :
    operation.call? secret ≠ some (.revoke token expiry) := by
  intro called
  cases calls_of_call? called with
  | revoke direct => exact indirect token expiry direct
  | logout out => exact Option.some_ne_none _ (out.symm.trans silent)

theorem call?_ne_flush (kept : operation ≠ .flush) : operation.call? secret ≠ some .flush := by
  intro called
  cases calls_of_call? called with
  | flush direct => exact kept direct

/-- The logout of a token that cannot be read calls nothing. -/
theorem call?_of_unread {error : Token.Error} (out : operation.loggedOut? = some (token, now))
    (unread : Token.read secret token now = .error error) : operation.call? secret = none := by
  have silent {headers : Http.Headers} (presented : Credential.presented? headers = some token) :
      logoutCall? secret headers now = none := by simp only [logoutCall?, presented, unread]
  cases operation with
  | logout headers time =>
    obtain ⟨other, presented, same⟩ := Option.map_eq_some_iff.mp out
    cases same
    exact silent presented
  | request moment asked =>
    simp only [loggedOut?] at out
    split at out
    next deletion =>
      obtain ⟨time, reads, found⟩ := Option.bind_eq_some_iff.mp out
      obtain ⟨other, presented, same⟩ := Option.map_eq_some_iff.mp found
      cases same
      have calls : Endpoint.call? secret moment asked = logoutCall? secret asked.headers now := by
        simp [Endpoint.call?, deletion.1, deletion.2, reads]
      exact calls.trans (silent presented)
    next => cases out
  | _ => cases out

end Operation

end SessionServer.Server
