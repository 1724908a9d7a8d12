import SessionServer.Proofs.Session.Calls
import SessionServer.Proofs.Session.Verdicts
import SessionServer.Proofs.Token.Spelling

/-!
A session that was found good once can be checked again without reading its token. The short check trusts
the expiry that was read the first time; the whole check is the short one followed by the lookup of the
account, in every state of the stores and at every time.
-/

namespace SessionServer.Session

/-- The session that a token with these claims is good for. -/
def Authenticated.ofClaims (token : String) (claims : Token.Claims) : Authenticated :=
  { principal := claims.principal, expiresAt := claims.expiresAt, token := token }

/-- What a check comes to once the account of its session was looked up. -/
def afterLookup (session : Authenticated) :
    Stores × Except StoreFault (Option Principal) → Stores × Except Error Authenticated
  | (stores, .error _) => (stores, .error .validatorUnavailable)
  | (stores, .ok none) => (stores, .error .unknownPrincipal)
  | (stores, .ok (some _)) => (stores, .ok session)

variable {secret : Bytes} {stores : Stores} {token : String} {now : Nat} {claims : Token.Claims}

/-- A session that was found good is the one of its token's claims. -/
theorem eq_ofClaims_of_validateToken {session : Authenticated}
    (good : (validateToken secret stores token now).2 = .ok session) :
    ∃ claims, Token.verify? secret token = some claims ∧ session = .ofClaims token claims := by
  rw [validateToken_snd] at good
  obtain ⟨-, claims, -, read, -, same⟩ := verdict_eq_ok_iff.mp good
  exact ⟨claims, (Token.verify?_of_read read).1, same⟩

theorem afterLookup_fst (session : Authenticated)
    (asked : Stores × Except StoreFault (Option Principal)) :
    (afterLookup session asked).1 = asked.1 := by
  rcases asked with ⟨stores, fault | _ | _⟩
  · rfl
  · rfl
  · rfl

/-- The whole check is the short one, and then the lookup of the account. -/
theorem validateToken_eq_recheck (verified : Token.verify? secret token = some claims) (stores : Stores)
    (now : Nat) :
    validateToken secret stores token now =
      match recheck stores (.ofClaims token claims) now with
      | (after, .error error) => (after, .error error)
      | (after, .ok ()) => afterLookup (.ofClaims token claims) (after.principal claims.subject) := by
  unfold validateToken recheck Authenticated.ofClaims
  simp only [Token.read_of_verify? verified]
  rcases checkNotRevoked stores token now with ⟨written, error | _⟩
  · rfl
  · by_cases early : now < claims.expiresAt
    · simp only [if_pos early, checkKnown]
      rcases written.principal claims.subject with ⟨counted, fault | _ | _⟩
      · rfl
      · rfl
      · rfl
    · simp only [if_neg early]

theorem validateToken_of_rechecked (verified : Token.verify? secret token = some claims)
    (passed : (recheck stores (.ofClaims token claims) now).2 = .ok ()) :
    validateToken secret stores token now = afterLookup (.ofClaims token claims)
      ((recheck stores (.ofClaims token claims) now).1.principal claims.subject) := by
  rw [validateToken_eq_recheck verified]
  rcases found : recheck stores (.ofClaims token claims) now with ⟨after, error | _⟩
  · rw [found] at passed
    cases passed
  · rfl

/-- The whole check fails wherever the short one does. -/
theorem validateToken_of_recheck_error {error : Error} (verified : Token.verify? secret token = some claims)
    (failed : (recheck stores (.ofClaims token claims) now).2 = .error error) :
    validateToken secret stores token now =
      ((recheck stores (.ofClaims token claims) now).1, .error error) := by
  rw [validateToken_eq_recheck verified]
  rcases found : recheck stores (.ofClaims token claims) now with ⟨after, other | _⟩
  · rw [found] at failed
    cases failed
    rfl
  · rw [found] at failed
    cases failed

theorem recheck_of_fault {fault : StoreFault}
    (unanswered : (stores.isRevoked token now).2 = .error fault) (claims : Token.Claims) :
    (recheck stores (.ofClaims token claims) now).2 = .error .validatorUnavailable := by
  simp only [recheck_snd, Authenticated.ofClaims, unanswered]

theorem recheck_of_revoked (revoked : (stores.isRevoked token now).2 = .ok true) (claims : Token.Claims) :
    (recheck stores (.ofClaims token claims) now).2 = .error .revokedToken := by
  simp only [recheck_snd, Authenticated.ofClaims, revoked]

/-- A token that is not revoked passes the short check until it expires. -/
theorem recheck_of_unrevoked (unrevoked : (stores.isRevoked token now).2 = .ok false)
    (claims : Token.Claims) :
    (recheck stores (.ofClaims token claims) now).2 =
      if now < claims.expiresAt then .ok () else .error .invalidOrExpiredToken := by
  simp only [recheck_snd, Authenticated.ofClaims, unrevoked]

/-- The short check asks whether the token is revoked, and nothing else. -/
theorem recheck_people (stores : Stores) (session : Authenticated) (now : Nat) :
    (recheck stores session now).1.people = stores.people := by
  rw [recheck_fst, Stores.isRevoked_fst, Stores.receive_people]

/-- Both checks ask for the token, and the lookup of the account writes nothing that a later question sees. -/
theorem validateToken_fst_eq_recheck (verified : Token.verify? secret token = some claims)
    (stores : Stores) (now : Nat) :
    (validateToken secret stores token now).1 =
      { (recheck stores (.ofClaims token claims) now).1 with
        people := (validateToken secret stores token now).1.people } := by
  rw [validateToken_eq_recheck verified]
  rcases recheck stores (.ofClaims token claims) now with ⟨after, error | _⟩
  · rfl
  · obtain ⟨people, looked⟩ := Stores.principal_fst after claims.subject
    simp only [afterLookup_fst, looked]

/-- A session that was found good once is checked again as its token is checked from the start, whatever
became of the stores and whatever the time is now. Both checks fail for the same reason as long as the
register does not answer, or says that the token is revoked, or the token has expired; in all other cases the
short check passes, and there alone the whole check goes on to look the account up. The register is left
alike. -/
theorem recheck_agrees {earlier : Stores} {start : Nat} {session : Authenticated}
    (good : (validateToken secret earlier token start).2 = .ok session) (stores : Stores) (now : Nat) :
    let asked := (stores.isRevoked token now).2
    let rechecked := recheck stores session now
    let checked := validateToken secret stores token now
    ∃ claims, Token.verify? secret token = some claims ∧
      (∀ fault, asked = .error fault →
        rechecked.2 = .error .validatorUnavailable ∧ checked.2 = .error .validatorUnavailable) ∧
      (asked = .ok true →
        rechecked.2 = .error .revokedToken ∧ checked.2 = .error .revokedToken) ∧
      (asked = .ok false → claims.expiresAt ≤ now →
        rechecked.2 = .error .invalidOrExpiredToken ∧ checked.2 = .error .invalidOrExpiredToken) ∧
      (asked = .ok false → now < claims.expiresAt → rechecked.2 = .ok ()) ∧
      (rechecked.2 = .ok () →
        checked = afterLookup session (rechecked.1.principal claims.subject)) ∧
      (∀ error, rechecked.2 = .error error → checked = (rechecked.1, .error error)) ∧
      rechecked.1.people = stores.people ∧
      checked.1 = { rechecked.1 with people := checked.1.people } := by
  intro asked rechecked checked
  obtain ⟨claims, verified, rfl⟩ := eq_ofClaims_of_validateToken good
  have both {error : Error} (fails : rechecked.2 = .error error) :
      rechecked.2 = .error error ∧ checked.2 = .error error :=
    ⟨fails, congrArg Prod.snd (validateToken_of_recheck_error verified fails)⟩
  refine ⟨claims, verified, ?_, ?_, ?_, ?_, validateToken_of_rechecked verified,
    fun error => validateToken_of_recheck_error verified, recheck_people stores _ now,
    validateToken_fst_eq_recheck verified stores now⟩
  · intro fault unanswered
    apply both
    exact recheck_of_fault unanswered claims
  · intro revoked
    apply both
    exact recheck_of_revoked revoked claims
  · intro unrevoked expired
    apply both
    exact (recheck_of_unrevoked unrevoked claims).trans (if_neg (Nat.not_lt.mpr expired))
  · intro unrevoked early
    exact (recheck_of_unrevoked unrevoked claims).trans (if_pos early)

/-- Stores without revocations, and someone who knows the principal of a session of an hour. -/
def withPrincipal : Stores :=
  { backing := .memory, database := { path := none, tables := Database.Tables.empty }
    people := .listed [Token.sessionOfAnHour.principal] false 0 }

/-- A session goes on for its last second though nobody can be asked for its account, but not a second
longer, and not once its token is revoked. -/
theorem recheck_agrees_unreachable :
    let token := String.ofList (Token.sign [0x6B] Token.sessionOfAnHour)
    let session := Authenticated.ofClaims token Token.sessionOfAnHour
    let alone : Stores := { withPrincipal with people := .listed [] true 7 }
    let revoked : Stores := { alone with memory := [(Revocation.digest token, 1700003600)] }
    (validateToken [0x6B] withPrincipal token 1700000000).2 = .ok session ∧
      (recheck alone session 1700003599).2 = .ok () ∧
      (validateToken [0x6B] alone token 1700003599).2 = .error .validatorUnavailable ∧
      (recheck alone session 1700003600).2 = .error .invalidOrExpiredToken ∧
      (validateToken [0x6B] alone token 1700003600).2 = .error .invalidOrExpiredToken ∧
      (recheck revoked session 1700003599).2 = .error .revokedToken ∧
      (validateToken [0x6B] revoked token 1700003599).2 = .error .revokedToken := by
  intro token session alone revoked
  have verified : Token.verify? [0x6B] token = some Token.sessionOfAnHour :=
    Token.verify?_sign [0x6B] (by decide) (by decide) (by decide)
  have read : Token.read [0x6B] token 1700000000 = .ok Token.sessionOfAnHour :=
    Token.read_of_verify? verified _
  have good : (validateToken [0x6B] withPrincipal token 1700000000).2 = .ok session := by
    rw [validateToken_snd]
    exact verdict_eq_ok_iff.mpr ⟨rfl, _, Token.sessionOfAnHour.principal, read, rfl, rfl⟩
  have held : (revoked.isRevoked token 1700003599).2 = .ok true := by
    have answered : revoked.register = .ok [(Revocation.digest token, 1700003600)] := rfl
    have entry : Revocation.Register.holds [(Revocation.digest token, 1700003600)]
        (Revocation.digest token) 1700003599 = true := by
      rw [Revocation.Register.holds_cons, if_pos rfl]
      decide
    rw [Stores.isRevoked_of_register answered, Revocation.Backing.isRevoked_snd]
    exact congrArg Except.ok entry
  obtain ⟨claims, same, -, -, -, passes, looked, -⟩ := recheck_agrees good alone 1700003599
  obtain ⟨others, again, -, -, expired, -⟩ := recheck_agrees good alone 1700003600
  obtain ⟨-, -, -, known, -⟩ := recheck_agrees good revoked 1700003599
  cases Option.some.inj (same.symm.trans verified)
  cases Option.some.inj (again.symm.trans verified)
  have early := passes rfl (by decide)
  refine ⟨good, early, ?_, (expired rfl (by decide)).1, (expired rfl (by decide)).2, known held⟩
  rw [looked early]
  rfl

end SessionServer.Session
