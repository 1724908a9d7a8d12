import SessionServer.Proofs.Session.Contents
import SessionServer.Session.Validator

/-!
What a check of a token says, and when. The register is asked first, so a revoked token is found to be
revoked whatever else is wrong with it; and a session that was found good has a token that was read.
-/

namespace SessionServer.Session
open Revocation (Register digest)

variable {secret : Bytes} {stores : Stores} {register : Register} {token : String} {now : Nat}

/-- What the check of a token says, by the answers of the register and of those who know accounts. -/
def verdict (secret : Bytes) (token : String) (now : Nat) (revoked : Except StoreFault Bool)
    (known : Int → Except StoreFault (Option Principal)) : Except Error Authenticated :=
  match revoked with
  | .error _ => .error .validatorUnavailable
  | .ok true => .error .revokedToken
  | .ok false =>
      match Token.read secret token now with
      | .error _ => .error .invalidOrExpiredToken
      | .ok claims =>
          match known claims.subject with
          | .error _ => .error .validatorUnavailable
          | .ok none => .error .unknownPrincipal
          | .ok (some _) =>
              .ok { principal := claims.principal, expiresAt := claims.expiresAt, token := token }

theorem validateToken_snd (secret : Bytes) (stores : Stores) (token : String) (now : Nat) :
    (validateToken secret stores token now).2 =
      verdict secret token now (stores.isRevoked token now).2
        fun id => ((stores.isRevoked token now).1.principal id).2 := by
  unfold validateToken checkNotRevoked verdict
  rcases asked : stores.isRevoked token now with ⟨written, fault | _ | _⟩
  · rfl
  · simp only
    cases Token.read secret token now with
    | error => rfl
    | ok claims =>
      unfold checkKnown
      rcases known : written.principal claims.subject with ⟨counted, fault | _ | _⟩
      · simp only [known]
      · simp only [known]
      · simp only [known]
  · rfl

theorem recheck_snd (stores : Stores) (session : Authenticated) (now : Nat) :
    (recheck stores session now).2 =
      match (stores.isRevoked session.token now).2 with
      | .error _ => .error .validatorUnavailable
      | .ok true => .error .revokedToken
      | .ok false => if now < session.expiresAt then .ok () else .error .invalidOrExpiredToken := by
  unfold recheck checkNotRevoked
  rcases stores.isRevoked session.token now with ⟨written, fault | _ | _⟩
  · rfl
  · rfl
  · rfl

theorem logout_snd (secret : Bytes) (stores : Stores) (headers : Http.Headers) (now : Nat) :
    (logout secret stores headers now).2 =
      match Credential.presented? headers with
      | none => .error .noCredentials
      | some token =>
          match Token.read secret token now with
          | .error _ => .ok ()
          | .ok claims =>
              match (stores.revoke token claims.expiresAt).2 with
              | .error _ => .error .validatorUnavailable
              | .ok () => .ok () := by
  unfold logout
  cases Credential.presented? headers with
  | none => rfl
  | some token =>
    cases read : Token.read secret token now with
    | error => simp only [read]
    | ok claims =>
      simp only [read]
      rcases stores.revoke token claims.expiresAt with ⟨written, fault | _⟩
      · rfl
      · rfl

/-- A token passes exactly if it is not revoked, is read, and its account is known; the session is then
as the token says. -/
theorem verdict_eq_ok_iff {revoked : Except StoreFault Bool}
    {known : Int → Except StoreFault (Option Principal)} {session : Authenticated} :
    verdict secret token now revoked known = .ok session ↔
      revoked = .ok false ∧ ∃ claims principal, Token.read secret token now = .ok claims ∧
        known claims.subject = .ok (some principal) ∧
        session = { principal := claims.principal, expiresAt := claims.expiresAt, token := token } := by
  unfold verdict
  rcases revoked with fault | _ | _
  · simp
  · simp only [true_and]
    cases Token.read secret token now with
    | error => simp
    | ok claims =>
      simp only [Except.ok.injEq, exists_eq_left', exists_and_left]
      rcases known claims.subject with fault | _ | principal
      · simp
      · simp
      · simp [eq_comm]
  · simp

theorem checkNotRevoked_of_register (answered : stores.register = .ok register) :
    (checkNotRevoked stores token now).2 =
      if (stores.backing.isRevoked register token now).2 then .error .revokedToken else .ok () := by
  rw [checkNotRevoked, Stores.isRevoked_of_register answered]
  cases (stores.backing.isRevoked register token now).2 with
  | true => rfl
  | false => rfl

theorem checkNotRevoked_of_fault {fault : StoreFault} (failed : stores.register = .error fault) :
    (checkNotRevoked stores token now).2 = .error .validatorUnavailable := by
  simp only [checkNotRevoked, Stores.isRevoked, failed]

/-- Whatever fails a check of the register fails the whole check. -/
theorem validateToken_of_checkNotRevoked {error : Error}
    (failed : (checkNotRevoked stores token now).2 = .error error) :
    (validateToken secret stores token now).2 = .error error := by
  unfold validateToken
  split
  next checked =>
    rw [checked] at failed
    cases failed
    rfl
  next checked =>
    rw [checked] at failed
    cases failed

theorem validateToken_of_isRevoked (answered : stores.register = .ok register)
    (revoked : (stores.backing.isRevoked register token now).2 = true) :
    (validateToken secret stores token now).2 = .error .revokedToken := by
  apply validateToken_of_checkNotRevoked
  rw [checkNotRevoked_of_register answered, revoked]
  rfl

/-- A token that is not revoked and cannot be read is invalid or has expired. -/
theorem validateToken_of_refused {error : Token.Error} (answered : stores.register = .ok register)
    (unrevoked : (stores.backing.isRevoked register token now).2 = false)
    (refused : Token.read secret token now = .error error) :
    (validateToken secret stores token now).2 = .error .invalidOrExpiredToken := by
  have passed : (checkNotRevoked stores token now).2 = .ok () := by
    rw [checkNotRevoked_of_register answered, unrevoked]
    rfl
  unfold validateToken
  split
  next checked =>
    rw [checked] at passed
    cases passed
  next => rw [refused]

/-- A session is found good only by a register that answers and does not hold its token, and only with a
token that is read. -/
theorem of_validateToken_eq_ok {session : Authenticated}
    (good : (validateToken secret stores token now).2 = .ok session) :
    (∃ register, stores.register = .ok register ∧
      (stores.backing.isRevoked register token now).2 = false) ∧
    ∃ claims, Token.read secret token now = .ok claims := by
  constructor
  · cases answered : stores.register with
    | error fault =>
      rw [validateToken_of_checkNotRevoked (checkNotRevoked_of_fault answered)] at good
      cases good
    | ok register =>
      refine ⟨register, rfl, Bool.eq_false_iff.mpr ?_⟩
      intro revoked
      rw [validateToken_of_isRevoked answered revoked] at good
      cases good
  · unfold validateToken at good
    split at good
    next => cases good
    next =>
      split at good
      next => cases good
      next claims read => exact ⟨claims, read⟩

theorem validate_of_presented {headers : Http.Headers}
    (presented : Credential.presented? headers = some token) :
    validate secret stores headers now = validateToken secret stores token now := by
  rw [validate, presented]

/-- A token that is read is revoked until it expires, if the register answers and can be written to. -/
theorem logout_of_read {headers : Http.Headers} {claims : Token.Claims}
    (presented : Credential.presented? headers = some token)
    (read : Token.read secret token now = .ok claims) (serves : stores.Serves register) :
    logout secret stores headers now =
      (stores.setRegister (stores.backing.revoke register token claims.expiresAt), .ok ()) := by
  simp only [logout, presented, read, Stores.revoke_of_serves serves]

/-- A token that cannot be read is logged out without a trace. -/
theorem logout_of_unread {headers : Http.Headers} {error : Token.Error}
    (presented : Credential.presented? headers = some token)
    (unread : Token.read secret token now = .error error) :
    logout secret stores headers now = (stores, .ok ()) := by
  simp only [logout, presented, unread]

/-- A logout that succeeds leaves the stores of an unreadable token alone, and revokes a token that is
read until it expires. -/
theorem of_logout_eq_ok {headers : Http.Headers}
    (presented : Credential.presented? headers = some token)
    (accepted : (logout secret stores headers now).2 = .ok ()) :
    (∃ error, Token.read secret token now = .error error) ∨
    ∃ claims register, Token.read secret token now = .ok claims ∧ stores.Serves register ∧
      (logout secret stores headers now).1 =
        stores.setRegister (stores.backing.revoke register token claims.expiresAt) := by
  cases read : Token.read secret token now with
  | error error => exact .inl ⟨error, rfl⟩
  | ok claims =>
    refine .inr ⟨claims, ?_⟩
    have written : (stores.revoke token claims.expiresAt).2 = .ok () := by
      rw [logout_snd, presented] at accepted
      simp only [read] at accepted
      split at accepted
      next => cases accepted
      next done => exact done
    obtain ⟨register, serves⟩ := Stores.serves_of_revoke written
    exact ⟨register, rfl, serves, congrArg Prod.fst (logout_of_read presented read serves)⟩

end SessionServer.Session
