import SessionServer.Proofs.Session.Alike

/-!
Which store call fails in a check or a logout, and what is answered then. Verdicts depend on the stores
by the answers that they give, so that alike stores give rise to the same verdicts and the same faults.
-/

namespace SessionServer.Session
open Revocation (Call)

/-- The fault of a call to a store. -/
def faultOf {α : Type} : Except StoreFault α → Option StoreFault
  | .error fault => some fault
  | .ok _ => none

namespace Stores

theorem faultOf_isRevoked (stores : Stores) (token : String) (now : Nat) :
    faultOf (stores.isRevoked token now).2 = faultOf stores.register := by
  unfold isRevoked
  cases stores.register <;> rfl

/-- A revocation fails only if the register cannot be asked or written to. -/
theorem not_serves_of_faultOf_revoke {stores : Stores} {token : String} {expiry : Nat}
    (failed : (faultOf (stores.revoke token expiry).2).isSome = true) (register : Revocation.Register) :
    ¬ stores.Serves register := by
  intro serves
  rw [revoke_of_serves serves] at failed
  cases failed

end Stores

variable {secret : Bytes} {stores : Stores} {token : String} {now : Nat}

/-- The fault of the first call that fails in the check of a token. Nobody is asked for the account if the
token is revoked or cannot be read. -/
def verdictFault? (secret : Bytes) (token : String) (now : Nat) (revoked : Except StoreFault Bool)
    (known : Int → Except StoreFault (Option Principal)) : Option StoreFault :=
  match revoked with
  | .error fault => some fault
  | .ok true => none
  | .ok false =>
      match Token.read secret token now with
      | .error _ => none
      | .ok claims => faultOf (known claims.subject)

/-- A check says that it is not possible now exactly if a call fails in it. -/
theorem verdict_eq_unavailable_iff {revoked : Except StoreFault Bool}
    {known : Int → Except StoreFault (Option Principal)} :
    verdict secret token now revoked known = .error .validatorUnavailable ↔
      (verdictFault? secret token now revoked known).isSome = true := by
  unfold verdict verdictFault?
  rcases revoked with fault | _ | _
  · simp
  · simp only
    cases Token.read secret token now with
    | error => simp
    | ok claims =>
      simp only
      rcases known claims.subject with fault | _ | _
      · simp [faultOf]
      · simp [faultOf]
      · simp [faultOf]
  · simp

/-- The fault of the call that fails in the check of a token. -/
def tokenFault? (secret : Bytes) (stores : Stores) (token : String) (now : Nat) : Option StoreFault :=
  verdictFault? secret token now (stores.isRevoked token now).2
    fun id => ((stores.isRevoked token now).1.principal id).2

/-- The fault of the call that fails in the check of a request. -/
def checkFault? (secret : Bytes) (stores : Stores) (headers : Http.Headers) (now : Nat) :
    Option StoreFault :=
  (Credential.presented? headers).bind fun token => tokenFault? secret stores token now

/-- The fault of the call that fails in a logout. Nothing is called for a token that cannot be read. -/
def logoutFault? (secret : Bytes) (stores : Stores) (headers : Http.Headers) (now : Nat) :
    Option StoreFault :=
  match Credential.presented? headers with
  | none => none
  | some token =>
      match Token.read secret token now with
      | .error _ => none
      | .ok claims => faultOf (stores.revoke token claims.expiresAt).2

/-- The check of a token that is not revoked and is read fails if its account cannot be looked up. -/
theorem tokenFault?_of_read {register : Revocation.Register} {claims : Token.Claims}
    (answered : stores.register = .ok register)
    (unrevoked : (stores.backing.isRevoked register token now).2 = false)
    (read : Token.read secret token now = .ok claims) :
    tokenFault? secret stores token now =
      faultOf ((stores.receive (some (.ask token now))).principal claims.subject).2 := by
  rw [tokenFault?, ← Stores.isRevoked_fst, Stores.isRevoked_of_register answered, unrevoked]
  simp only [verdictFault?, read]

theorem validateToken_eq_unavailable_iff :
    (validateToken secret stores token now).2 = .error .validatorUnavailable ↔
      (tokenFault? secret stores token now).isSome = true := by
  rw [validateToken_snd]
  exact verdict_eq_unavailable_iff

theorem validate_eq_unavailable_iff {headers : Http.Headers} :
    (validate secret stores headers now).2 = .error .validatorUnavailable ↔
      (checkFault? secret stores headers now).isSome = true := by
  unfold validate checkFault?
  cases Credential.presented? headers with
  | none => simp
  | some token => exact validateToken_eq_unavailable_iff

theorem logout_eq_unavailable_iff {headers : Http.Headers} :
    (logout secret stores headers now).2 = .error .validatorUnavailable ↔
      (logoutFault? secret stores headers now).isSome = true := by
  rw [logout_snd]
  unfold logoutFault?
  cases Credential.presented? headers with
  | none => simp
  | some token =>
    simp only
    cases Token.read secret token now with
    | error => simp
    | ok claims =>
      simp only
      cases (stores.revoke token claims.expiresAt).2 with
      | error => simp [faultOf]
      | ok => simp [faultOf]

/-- A logout fails by the register alone. -/
theorem not_serves_of_logoutFault? {headers : Http.Headers}
    (failed : (logoutFault? secret stores headers now).isSome = true) (register : Revocation.Register) :
    ¬ stores.Serves register := by
  unfold logoutFault? at failed
  split at failed
  next => cases failed
  next =>
    split at failed
    next => cases failed
    next => exact Stores.not_serves_of_faultOf_revoke failed register

theorem recheck_eq_unavailable_iff {session : Authenticated} :
    (recheck stores session now).2 = .error .validatorUnavailable ↔
      (faultOf (stores.isRevoked session.token now).2).isSome = true := by
  rw [recheck_snd]
  rcases (stores.isRevoked session.token now).2 with fault | _ | _
  · simp [faultOf]
  · by_cases early : now < session.expiresAt
    · simp [faultOf, early]
    · simp [faultOf, early]
  · simp [faultOf]

namespace Stores

variable {last : Nat} {first second : Stores}

theorem Alike.faultOf_register (alike : Alike last first second) :
    faultOf first.register = faultOf second.register := by
  rcases alike.matches.register with ⟨fault, failed, otherFailed⟩ | ⟨one, two, answered, otherAnswered, -⟩
  · rw [failed, otherFailed]
  · rw [answered, otherAnswered]
    rfl

/-- Purges fail for the same reason, if the registers are the same where they cannot be written to. -/
theorem Alike.faultOf_purge (alike : Alike last first second)
    (unwritten : ¬ first.IsWritable → second.entries? = first.entries?) (now : Nat) :
    faultOf (first.purge now).2 = faultOf (second.purge now).2 := by
  rcases alike.matches.register with ⟨fault, failed, otherFailed⟩ | ⟨one, two, answered, otherAnswered, -⟩
  · simp only [purge, failed, otherFailed]
  · by_cases writable : first.IsWritable
    · rw [purge_of_serves ⟨answered, writable⟩,
        purge_of_serves ⟨otherAnswered, alike.matches.isWritable_iff.mpr writable⟩]
      rfl
    · have same := unwritten writable
      rw [(register_eq_ok_iff.mp answered).2, (register_eq_ok_iff.mp otherAnswered).2] at same
      cases same
      simp only [purge, answered, otherAnswered, alike.backing]
      exact congrArg faultOf (alike.matches.conclude_snd _ rfl)

theorem Alike.validateToken_snd (alike : Alike last first second) (order : last ≤ now)
    (secret : Bytes) (token : String) :
    (validateToken secret first token now).2 = (validateToken secret second token now).2 :=
  alike.matches.validateToken_snd (alike.agree order token) secret

theorem Alike.tokenFault? (alike : Alike last first second) (order : last ≤ now) (secret : Bytes)
    (token : String) :
    Session.tokenFault? secret first token now = Session.tokenFault? secret second token now := by
  rw [Session.tokenFault?, Session.tokenFault?, alike.isRevoked_snd order token,
    alike.matches.known token now]

theorem Alike.validate_snd (alike : Alike last first second) (order : last ≤ now) (secret : Bytes)
    (headers : Http.Headers) :
    (validate secret first headers now).2 = (validate secret second headers now).2 :=
  alike.matches.validate_snd (fun token _ => alike.agree order token) secret

theorem Alike.checkFault? (alike : Alike last first second) (order : last ≤ now) (secret : Bytes)
    (headers : Http.Headers) :
    Session.checkFault? secret first headers now = Session.checkFault? secret second headers now := by
  simp only [Session.checkFault?, alike.tokenFault? order]

theorem Alike.recheck_snd (alike : Alike last first second) (order : last ≤ now)
    (session : Authenticated) :
    (recheck first session now).2 = (recheck second session now).2 :=
  alike.matches.recheck_snd (alike.agree order session.token)

theorem Alike.logout_snd (alike : Alike last first second) (secret : Bytes)
    (headers : Http.Headers) (now : Nat) :
    (logout secret first headers now).2 = (logout secret second headers now).2 :=
  alike.matches.logout_snd secret headers now

theorem Alike.logoutFault? (alike : Alike last first second) (secret : Bytes)
    (headers : Http.Headers) (now : Nat) :
    Session.logoutFault? secret first headers now = Session.logoutFault? secret second headers now := by
  simp only [Session.logoutFault?, alike.revoke_snd]

end Stores

end SessionServer.Session
