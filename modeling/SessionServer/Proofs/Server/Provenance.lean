import SessionServer.Proofs.Server.Calls
import SessionServer.Proofs.Server.Logout

/-!
Where revocations come from. If nothing but logouts revokes, every entry of the register is that of a token
which was read when it was logged out, and ends with that token. So the register holds nothing that does
not concern a session, and an entry that has gone never comes back.
-/

namespace SessionServer.Token

/-- A token that has expired by a time, or has no good signature, is not read then. -/
theorem read_error_of_expired {secret : Bytes} {token : String} {now : Nat}
    (expired : ∀ claims, verify? secret token = some claims → claims.expiresAt ≤ now) :
    ∃ error, read secret token now = .error error := by
  cases result : read secret token now with
  | error error => exact ⟨error, rfl⟩
  | ok claims =>
    obtain ⟨verified, unexpired⟩ := verify?_of_read result
    exact absurd (expired claims verified) (Nat.not_le.mpr unexpired)

end SessionServer.Token

namespace SessionServer.Session.Stores
open Revocation (digest)

/-- Whether the register that is kept has an entry under a digest, ended or not. -/
def Lists (stores : Stores) (key : Bytes) : Prop :=
  ∃ register, stores.entries? = some register ∧ register.Lists key

/-- Whether every entry is that of a token which was logged out and read then, and ends with the token. -/
def StemsFrom (stores : Stores) (secret : Bytes) (logouts : List (String × Nat)) : Prop :=
  ∀ register, stores.entries? = some register → ∀ key expiry, (key, expiry) ∈ register →
    ∃ token now claims, (token, now) ∈ logouts ∧ digest token = key ∧
      Token.read secret token now = .ok claims ∧ expiry = stores.backing.kept claims.expiresAt

theorem StemsFrom.mono {stores : Stores} {secret : Bytes} {logouts more : List (String × Nat)}
    (stems : stores.StemsFrom secret logouts) : stores.StemsFrom secret (logouts ++ more) := by
  intro register kept key expiry member
  obtain ⟨token, now, claims, out, rest⟩ := stems register kept key expiry member
  exact ⟨token, now, claims, List.mem_append_left more out, rest⟩

end SessionServer.Session.Stores

namespace SessionServer.Server
open Revocation (Call digest)
open Session (Stores)
open Text.Decimal (maxSigned)

/-- The readings, or the logouts, of a run are those of its first operation and then those of the rest. -/
theorem filterMap_cons_eq {α β : Type} (read? : α → Option β) (first : α) (rest : List α) :
    (first :: rest).filterMap read? = (read? first).toList ++ rest.filterMap read? := by
  rw [List.filterMap_cons]
  cases read? first with
  | none => rfl
  | some found => rfl

/-- Whether no other token of these logouts has the digest of a token. -/
def Distinguished (token : String) (logouts : List (String × Nat)) : Prop :=
  ∀ other now, (other, now) ∈ logouts → digest other = digest token → other = token

theorem Distinguished.mono {token : String} {logouts fewer : List (String × Nat)}
    (distinguished : Distinguished token logouts) (subset : ∀ out ∈ fewer, out ∈ logouts) :
    Distinguished token fewer :=
  fun other now out => distinguished other now (subset _ out)

namespace State

variable {state : State} {operation : Operation} {secret : Bytes} {logouts : List (String × Nat)}
  {token : String} {claims : Token.Claims}

/-- An entry under the digest of a token that no other one shares is the token's own. -/
theorem expiry_of_stemsFrom (stems : state.site.stores.StemsFrom secret logouts)
    (distinguished : Distinguished token logouts)
    (verified : Token.verify? secret token = some claims) {register : Revocation.Register}
    (kept : state.site.stores.entries? = some register) {expiry : Nat}
    (member : (digest token, expiry) ∈ register) :
    expiry = state.site.stores.backing.kept claims.expiresAt := by
  obtain ⟨other, now, others, out, same, read, ends⟩ := stems register kept _ _ member
  cases distinguished other now out same
  cases verified.symm.trans (Token.verify?_of_read read).1
  exact ends

/-- Of a token that no other one shares its digest with, no entry holds once the token has expired. -/
theorem not_held_of_stemsFrom (stems : state.site.stores.StemsFrom secret logouts)
    (distinguished : Distinguished token logouts) {register : Revocation.Register}
    (kept : state.site.stores.entries? = some register) {now : Nat}
    (expired : ∀ claims, Token.verify? secret token = some claims → claims.expiresAt ≤ now) :
    register.holds (digest token) (state.site.stores.backing.kept now) = false := by
  refine Revocation.Register.holds_eq_false_of_ended fun expiry member => ?_
  obtain ⟨other, out, claims, loggedOut, same, read, rfl⟩ := stems register kept _ _ member
  cases distinguished other out loggedOut same
  exact Revocation.Backing.kept_le_kept (expired claims (Token.verify?_of_read read).1)

/-- A token that has an entry was read at a logout, if no other one shares its digest. -/
theorem verify?_of_lists (stems : state.site.stores.StemsFrom secret logouts)
    (distinguished : Distinguished token logouts) (lists : state.site.stores.Lists (digest token)) :
    ∃ claims, Token.verify? secret token = some claims := by
  obtain ⟨register, kept, expiry, member⟩ := lists
  obtain ⟨other, out, claims, loggedOut, same, read, -⟩ := stems register kept _ _ member
  cases distinguished other out loggedOut same
  exact ⟨claims, (Token.verify?_of_read read).1⟩

section Step
variable (settled : state.IsSettled)
include settled

theorem stemsFrom_step (indirect : ∀ token expiry, operation ≠ .revoke token expiry)
    (stems : state.site.stores.StemsFrom state.setup.policy.secret logouts) :
    (state.step operation).1.site.stores.StemsFrom state.setup.policy.secret
      (logouts ++ operation.loggedOut?.toList) := by
  intro register kept key expiry member
  rw [settled.step_backing]
  rcases settled.step_entries operation with called | lost | ⟨-, emptied⟩
  · rw [called] at kept
    rcases Stores.entries?_receive state.site.stores
      (operation.call? state.setup.policy.secret) with same | ⟨call, before, asks, had, changed⟩
    · exact stems.mono register (same ▸ kept) key expiry member
    · cases changed.symm.trans kept
      rcases Call.mem_of_mem_apply member with old | ⟨token, ends, revokes, new⟩
      · exact stems.mono before had key expiry old
      · cases new
        cases revokes
        rcases Operation.calls_of_call? asks with direct | _ | _ | _ | ⟨out, _, read⟩
        · exact absurd direct (indirect _ _)
        · exact ⟨token, _, _, List.mem_append_right _ (by rw [out]; exact List.mem_singleton_self _),
            rfl, read, rfl⟩
  · cases lost.symm.trans kept
  · cases emptied.symm.trans kept
    cases member

/-- An entry goes by a loss of its table, or at a time at which its token has expired. -/
theorem expired_of_gone (spared : ¬ operation.Empties state)
    (bound : ∀ reading, operation.reading? = some reading → reading < maxSigned)
    (stems : state.site.stores.StemsFrom secret logouts) (distinguished : Distinguished token logouts)
    (verified : Token.verify? secret token = some claims)
    (lists : state.site.stores.Lists (digest token))
    (gone : ¬ (state.step operation).1.site.stores.Lists (digest token)) :
    (state.step operation).1.site.stores.entries? = none ∨
      ∃ now, operation.reading? = some now ∧ claims.expiresAt ≤ now := by
  obtain ⟨register, kept, listed⟩ := lists
  rcases settled.step_entries operation with called | lost | ⟨empties, -⟩
  · rcases Stores.entries?_receive state.site.stores
      (operation.call? state.setup.policy.secret) with same | ⟨call, before, asks, had, changed⟩
    · exact absurd ⟨register, called.trans (same.trans kept), listed⟩ gone
    · cases kept.symm.trans had
      have left : ¬ (call.apply state.site.stores.backing register).Lists (digest token) :=
        fun still => gone ⟨_, called.trans changed, still⟩
      have calls := Operation.calls_of_call? asks
      rcases Call.ended_of_not_lists listed left with rfl | ⟨now, reads, expiry, member, ended⟩
      · cases calls with
        | flush direct =>
          subst direct
          exact absurd trivial spared
      · refine .inr ⟨now, calls.reading? reads, ?_⟩
        cases expiry_of_stemsFrom stems distinguished verified kept member
        by_contra unexpired
        have later : state.site.stores.backing.kept now < state.site.stores.backing.kept claims.expiresAt :=
          (Revocation.Backing.kept_lt_kept_iff (bound now (calls.reading? reads)) _).mpr
            (Nat.not_le.mp unexpired)
        omega
  · exact .inl lost
  · exact absurd empties spared

/-- While a token has no entry, it gets none once it has expired. -/
theorem not_lists_step (indirect : ∀ token expiry, operation ≠ .revoke token expiry)
    (distinguished : Distinguished token operation.loggedOut?.toList)
    (verified : Token.verify? state.setup.policy.secret token = some claims)
    (expired : ∀ now, operation.reading? = some now → claims.expiresAt ≤ now)
    (absent : ¬ state.site.stores.Lists (digest token)) :
    ¬ (state.step operation).1.site.stores.Lists (digest token) := by
  rintro ⟨register, kept, expiry, member⟩
  rcases settled.step_entries operation with called | lost | ⟨-, emptied⟩
  · rw [called] at kept
    rcases Stores.entries?_receive state.site.stores
      (operation.call? state.setup.policy.secret) with same | ⟨call, before, asks, had, changed⟩
    · exact absent ⟨register, same ▸ kept, expiry, member⟩
    · cases changed.symm.trans kept
      rcases Call.mem_of_mem_apply member with old | ⟨other, _, rfl, new⟩
      · exact absent ⟨before, had, expiry, old⟩
      · have shared : digest token = digest other := (Prod.mk.inj new).1
        rcases Operation.calls_of_call? asks with direct | _ | _ | _ | ⟨out, reads, read⟩
        · exact absurd direct (indirect _ _)
        · cases distinguished other _ (by rw [out]; exact List.mem_singleton_self _) shared.symm
          obtain ⟨verifiedThen, unexpired⟩ := Token.verify?_of_read read
          cases verifiedThen.symm.trans verified
          exact absurd (expired _ reads) (Nat.not_le.mpr unexpired)
  · cases lost.symm.trans kept
  · cases emptied.symm.trans kept
    cases member

/-- A register whose table is lost stays lost, unless the server starts without it. -/
theorem entries?_none_step (spared : ¬ operation.Empties state)
    (lost : state.site.stores.entries? = none) :
    (state.step operation).1.site.stores.entries? = none := by
  rcases settled.step_entries operation with called | lost | ⟨empties, -⟩
  · rcases Stores.entries?_receive state.site.stores
      (operation.call? state.setup.policy.secret) with same | ⟨_, _, -, had, -⟩
    · exact called.trans (same.trans lost)
    · cases had.symm.trans lost
  · exact lost
  · exact absurd empties spared

end Step

section Run
variable {operations : List Operation} (settled : state.IsSettled)
include settled

theorem stemsFrom_run (indirect : ∀ operation ∈ operations, ∀ token expiry, operation ≠ .revoke token expiry)
    (stems : state.site.stores.StemsFrom state.setup.policy.secret logouts) :
    (state.run operations).1.site.stores.StemsFrom state.setup.policy.secret
      (logouts ++ operations.filterMap Operation.loggedOut?) := by
  induction operations generalizing state logouts with
  | nil =>
    rw [List.filterMap_nil, List.append_nil]
    exact stems
  | cons operation rest ih =>
    obtain ⟨direct, others⟩ := List.forall_mem_cons.mp indirect
    have after := stemsFrom_step settled direct stems
    rw [← step_setup state operation] at after
    have whole := ih settled.step others after
    rw [step_setup, List.append_assoc, ← filterMap_cons_eq] at whole
    exact whole

/-- A register whose table is lost in a run stays lost, unless the server starts without it. -/
theorem entries?_none_run (spared : ∀ operation ∈ operations, ¬ operation.Empties state)
    (lost : state.site.stores.entries? = none) :
    (state.run operations).1.site.stores.entries? = none := by
  induction operations generalizing state with
  | nil => exact lost
  | cons operation rest ih =>
    obtain ⟨spares, others⟩ := List.forall_mem_cons.mp spared
    rw [run_cons]
    exact ih settled.step (settled.spared_step operation others) (entries?_none_step settled spares lost)

/-- An entry goes in a run by a loss of its table, or at a time at which its token has expired. -/
theorem expired_of_gone_run
    (indirect : ∀ operation ∈ operations, ∀ token expiry, operation ≠ .revoke token expiry)
    (spared : ∀ operation ∈ operations, ¬ operation.Empties state)
    (bound : ∀ reading ∈ operations.filterMap Operation.reading?, reading < maxSigned)
    (stems : state.site.stores.StemsFrom state.setup.policy.secret logouts)
    (distinguished : Distinguished token (logouts ++ operations.filterMap Operation.loggedOut?))
    (verified : Token.verify? state.setup.policy.secret token = some claims)
    (lists : state.site.stores.Lists (digest token))
    (gone : ¬ (state.run operations).1.site.stores.Lists (digest token)) :
    (state.run operations).1.site.stores.entries? = none ∨
      ∃ now ∈ operations.filterMap Operation.reading?, claims.expiresAt ≤ now := by
  induction operations generalizing state logouts with
  | nil => exact absurd lists gone
  | cons operation rest ih =>
    obtain ⟨direct, indirectNext⟩ := List.forall_mem_cons.mp indirect
    obtain ⟨spares, sparedRest⟩ := List.forall_mem_cons.mp spared
    have sparedNext := settled.spared_step operation sparedRest
    rw [filterMap_cons_eq] at bound ⊢
    rw [filterMap_cons_eq, ← List.append_assoc] at distinguished
    rw [run_cons] at gone ⊢
    by_cases kept : (state.step operation).1.site.stores.Lists (digest token)
    · have after := stemsFrom_step settled direct stems
      rw [← step_setup state operation] at after verified
      have others := ih settled.step indirectNext sparedNext
        (fun reading member => bound reading (List.mem_append_right _ member)) after distinguished
        verified kept gone
      refine others.imp_right ?_
      rintro ⟨now, member, expired⟩
      exact ⟨now, List.mem_append_right _ member, expired⟩
    · have reads {reading : Nat} (read : operation.reading? = some reading) :
          reading ∈ operation.reading?.toList ++ rest.filterMap Operation.reading? := by
        rw [read]
        exact List.mem_cons_self
      have fewer : Distinguished token logouts := by
        rw [List.append_assoc] at distinguished
        exact distinguished.mono fun out member => List.mem_append_left _ member
      rcases expired_of_gone settled spares
        (fun reading read => bound reading (reads read)) stems fewer verified lists kept with
        lost | ⟨now, read, expired⟩
      · exact .inl (entries?_none_run settled.step sparedNext lost)
      · exact .inr ⟨now, reads read, expired⟩

/-- A token without an entry gets none in a run that begins once it has expired. -/
theorem not_lists_run (indirect : ∀ operation ∈ operations, ∀ token expiry, operation ≠ .revoke token expiry)
    (distinguished : Distinguished token (operations.filterMap Operation.loggedOut?))
    (verified : Token.verify? state.setup.policy.secret token = some claims)
    (expired : ∀ now ∈ operations.filterMap Operation.reading?, claims.expiresAt ≤ now)
    (absent : ¬ state.site.stores.Lists (digest token)) :
    ¬ (state.run operations).1.site.stores.Lists (digest token) := by
  induction operations generalizing state with
  | nil => exact absent
  | cons operation rest ih =>
    obtain ⟨direct, indirectNext⟩ := List.forall_mem_cons.mp indirect
    rw [filterMap_cons_eq] at distinguished expired
    have first := not_lists_step settled direct
      (distinguished.mono fun out member => List.mem_append_left _ member) verified
      (fun now read => expired now (by rw [read]; exact List.mem_cons_self)) absent
    rw [← step_setup state operation] at verified
    rw [run_cons]
    exact ih settled.step indirectNext
      (distinguished.mono fun out member => List.mem_append_right _ member) verified
      (fun now member => expired now (List.mem_append_right _ member)) first

/-- An entry that has gone does not come back, unless the register was emptied. -/
theorem not_lists_of_gone {second third : List Operation}
    (indirect : ∀ operation ∈ second ++ third, ∀ token expiry, operation ≠ .revoke token expiry)
    (spared : ∀ operation ∈ second ++ third, ¬ operation.Empties state)
    (ordered : ((second ++ third).filterMap Operation.reading?).Pairwise (· ≤ ·))
    (bound : ∀ reading ∈ (second ++ third).filterMap Operation.reading?, reading < maxSigned)
    (stems : state.site.stores.StemsFrom state.setup.policy.secret logouts)
    (distinguished : Distinguished token
      (logouts ++ (second ++ third).filterMap Operation.loggedOut?))
    (lists : state.site.stores.Lists (digest token))
    (gone : ¬ (state.run second).1.site.stores.Lists (digest token)) :
    ¬ (state.run (second ++ third)).1.site.stores.Lists (digest token) := by
  rw [List.filterMap_append] at ordered bound distinguished
  obtain ⟨indirectSecond, indirectThird⟩ := List.forall_mem_append.mp indirect
  obtain ⟨sparedSecond, sparedThird⟩ := List.forall_mem_append.mp spared
  obtain ⟨-, -, secondFirst⟩ := List.pairwise_append.mp ordered
  have mine : Distinguished token logouts :=
    distinguished.mono fun out member => List.mem_append_left _ member
  obtain ⟨claims, verified⟩ := verify?_of_lists stems mine lists
  have ends := expired_of_gone_run settled indirectSecond sparedSecond
    (fun reading member => bound reading (List.mem_append_left _ member)) stems
    (distinguished.mono fun out member => by
      rw [← List.append_assoc]
      exact List.mem_append_left _ member) verified lists gone
  have settledNext := settled.run second
  rw [run_append]
  rcases ends with lost | ⟨now, member, expired⟩
  · rintro ⟨register, kept, -⟩
    rw [entries?_none_run settledNext (settled.spared_run sparedThird) lost] at kept
    cases kept
  · have verifiedNext : Token.verify? (state.run second).1.setup.policy.secret token = some claims := by
      rw [run_setup]
      exact verified
    refine not_lists_run settledNext indirectThird
      (distinguished.mono fun out member => List.mem_append_right _ (List.mem_append_right _ member))
      verifiedNext ?_ gone
    intro reading later
    exact Nat.le_trans expired (secondFirst now member reading later)

end Run

/-- The logout of a token that cannot be read leaves every entry as it was. -/
theorem entries?_of_unread {now : Nat} {error : Token.Error}
    (policy : state.site.policy = state.setup.policy)
    (out : operation.loggedOut? = some (token, now))
    (unread : Token.read state.setup.policy.secret token now = .error error) :
    (state.step operation).1.site.stores.entries? = state.site.stores.entries? := by
  have running : operation ≠ .restart := by
    rintro rfl
    cases out
  have keeps : ¬ operation.Loses := by
    intro loses
    cases operation with
    | lose => cases out
    | _ => exact loses
  have silent := Operation.call?_of_unread out unread
  rcases (step_stores policy running).entries with called | ⟨loses, -⟩
  · rw [called, silent, Stores.receive_none]
  · exact absurd loses keeps

/-- In a run that begins with no revocation, and revokes by logouts only, each entry is that of a token
which was read at a logout, and ends with the token. A logout of a token that is not read leaves all
entries as they are. Of a token whose digest no other token logged out has: if its entry has gone, it has
none later in the run, unless the register was emptied; and at every time at which the token has expired,
or if it never was good, the token is found to be invalid or expired whenever the register answers. -/
theorem entries_stem_from_logouts {setup : Setup} {files remaining : Database.Files}
    {operations : List Operation} (started : start setup files = (remaining, .ok state))
    (empty : state.site.stores.entries? = some [])
    (indirect : ∀ operation ∈ operations, ∀ token expiry, operation ≠ .revoke token expiry)
    (ordered : (operations.filterMap Operation.reading?).Pairwise (· ≤ ·))
    (bound : ∀ reading ∈ operations.filterMap Operation.reading?, reading < maxSigned) :
    let secret := state.setup.policy.secret
    let logouts := operations.filterMap Operation.loggedOut?
    let after := (state.run operations).1
    after.site.stores.StemsFrom secret logouts ∧
    (∀ logout token now error, Operation.loggedOut? logout = some (token, now) →
      Token.read secret token now = .error error →
      (after.step logout).1.site.stores.entries? = after.site.stores.entries?) ∧
    ∀ token, Distinguished token logouts →
      (∀ first second third, operations = first ++ second ++ third →
        (∀ operation ∈ second ++ third, ¬ operation.Empties state) →
        (state.run first).1.site.stores.Lists (digest token) →
        ¬ (state.run (first ++ second)).1.site.stores.Lists (digest token) →
        ¬ after.site.stores.Lists (digest token)) ∧
      ∀ again now, Credential.presented? again = some token →
        (∀ claims, Token.verify? secret token = some claims → claims.expiresAt ≤ now) →
        (∃ revoked, (after.step (.isRevoked token now)).2 = .truth revoked) →
        (after.step (.validate again now)).2 = .sessionError .invalidOrExpiredToken := by
  intro secret logouts after
  have settled := isSettled_of_start started
  have beginning : state.site.stores.StemsFrom secret [] := by
    intro register kept key expiry member
    cases empty.symm.trans kept
    cases member
  have stems : after.site.stores.StemsFrom secret logouts :=
    stemsFrom_run settled indirect beginning
  have secretAfter : after.setup.policy.secret = secret := by rw [run_setup]
  refine ⟨stems, ?_, fun token distinguished => ⟨?_, ?_⟩⟩
  · intro logout token now error out unread
    exact entries?_of_unread (settled.run operations).policy out (secretAfter ▸ unread)
  · intro first second third split spared listed gone
    rw [List.append_assoc] at split
    subst split
    rw [List.filterMap_append] at ordered bound
    obtain ⟨indirectFirst, indirectLater⟩ := List.forall_mem_append.mp indirect
    have stemsFirst : (state.run first).1.site.stores.StemsFrom (state.run first).1.setup.policy.secret
        (first.filterMap Operation.loggedOut?) := by
      rw [run_setup]
      exact stemsFrom_run settled indirectFirst beginning
    simp only [logouts] at distinguished
    rw [List.filterMap_append] at distinguished
    rw [run_append] at gone
    simp only [after]
    rw [run_append]
    exact not_lists_of_gone (settled.run first) indirectLater (settled.spared_run spared)
      (List.pairwise_append.mp ordered).2.1
      (fun reading member => bound reading (List.mem_append_right _ member)) stemsFirst distinguished
      listed gone
  · intro again now presented expired ⟨revoked, asked⟩
    obtain ⟨_, answer, -⟩ := Operation.of_outcome asked nofun
    obtain ⟨register, answered⟩ := Session.Stores.register_of_isRevoked answer
    obtain ⟨error, refused⟩ := Token.read_error_of_expired expired
    have kept := (Session.Stores.register_eq_ok_iff.mp answered).2
    have unrevoked : (after.site.stores.backing.isRevoked register token now).2 = false := by
      rw [Revocation.Backing.isRevoked_snd]
      exact not_held_of_stemsFrom stems distinguished kept expired
    show Operation.outcome .sessionError .authenticated (Session.validate _ _ again now).2 = _
    rw [Session.validate_of_presented presented, secretAfter,
      Session.validateToken_of_refused answered unrevoked refused]
    rfl

/-- The session of an hour is logged out, its entry is purged at its end, and another logout does not
bring the entry back. -/
theorem entries_stem_from_logouts_inMemory :
    ∃ headers, Credential.presented? headers = some tokenOfAnHour ∧
      let after := (inMemory.run [.logout headers 1700000000, .purge 1700003600,
        .logout headers 1700003601]).1
      ¬ after.site.stores.Lists (digest tokenOfAnHour) ∧
      (after.step (.validate headers 1700003601)).2 = .sessionError .invalidOrExpiredToken := by
  obtain ⟨headers, presented⟩ := presented?_tokenOfAnHour
  have read (now : Nat) : Token.read [0x6B] tokenOfAnHour now =
      if now < 1700003600 then .ok Token.sessionOfAnHour else .error .invalid :=
    Token.read_of_verify? verify?_tokenOfAnHour now
  have recorded : (inMemory.step (.logout headers 1700000000)).1 =
      inMemory.withStores
        { inMemory.site.stores with memory := [(digest tokenOfAnHour, 1700003600)] } := by
    have serves : inMemory.site.stores.Serves [] := ⟨rfl, by decide⟩
    show inMemory.withStores (Session.logout [0x6B] _ headers 1700000000).1 = _
    rw [Session.logout_of_read presented (read 1700000000) serves]
    rfl
  have purged : (inMemory.run [.logout headers 1700000000, .purge 1700003600]).1 = inMemory := by
    rw [run_cons, recorded]
    rfl
  have ignored : (inMemory.step (.logout headers 1700003601)).1 = inMemory := by
    have unread : Token.read [0x6B] tokenOfAnHour 1700003601 = .error .invalid :=
      (read 1700003601).trans (if_neg (by decide))
    show inMemory.withStores (Session.logout [0x6B] inMemory.site.stores headers 1700003601).1 = _
    rw [Session.logout_of_unread presented unread]
    rfl
  let operations : List Operation :=
    [.logout headers 1700000000, .purge 1700003600, .logout headers 1700003601]
  have indirect : ∀ operation ∈ operations, ∀ token expiry, operation ≠ .revoke token expiry := by
    simp [operations]
  have ordered : (operations.filterMap Operation.reading?).Pairwise (· ≤ ·) := by
    show [1700000000, 1700003600, 1700003601].Pairwise (· ≤ ·)
    decide
  have bound : ∀ reading ∈ operations.filterMap Operation.reading?, reading < maxSigned := by
    show ∀ reading ∈ [1700000000, 1700003600, 1700003601], reading < maxSigned
    decide
  have distinguished : Distinguished tokenOfAnHour (operations.filterMap Operation.loggedOut?) := by
    intro other now out _
    simp only [operations, List.filterMap, Operation.loggedOut?, presented, Option.map_some, List.mem_cons,
      List.not_mem_nil, or_false, Prod.mk.injEq] at out
    rcases out with ⟨same, -⟩ | ⟨same, -⟩
    · exact same
    · exact same
  obtain ⟨gone, invalid⟩ := (entries_stem_from_logouts start_memorySetup rfl indirect ordered
    bound).2.2 tokenOfAnHour distinguished
  refine ⟨headers, presented, ?_, invalid headers 1700003601 presented ?_ ?_⟩
  · refine gone [.logout headers 1700000000] [.purge 1700003600] [.logout headers 1700003601] rfl
      (by simp [Operation.Empties]) ?_ ?_
    · rw [run_cons, recorded]
      exact ⟨_, rfl, _, List.mem_singleton_self _⟩
    · rw [List.singleton_append, purged]
      rintro ⟨_, kept, _, member⟩
      cases kept
      cases member
  · intro claims verified
    cases verify?_tokenOfAnHour.symm.trans verified
    decide
  · have after : (inMemory.run operations).1 = inMemory := by
      rw [show operations = [.logout headers 1700000000, .purge 1700003600] ++
        [.logout headers 1700003601] from rfl, run_append, purged, run_cons, ignored]
      rfl
    have answered : inMemory.site.stores.register = .ok [] := rfl
    rw [after]
    exact isRevoked_truth answered tokenOfAnHour 1700003601

end State

end SessionServer.Server
