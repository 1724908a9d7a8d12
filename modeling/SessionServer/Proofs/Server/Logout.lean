import SessionServer.Proofs.Credential.Bearer
import SessionServer.Proofs.Server.Changes
import SessionServer.Proofs.Session.Verdicts
import SessionServer.Proofs.Token.Spelling

/-!
Logging out is for good. The revocation of a token that could be read is kept until the token expires,
through every run that does not do away with all revocations; and a token that could not be read is not
read later either.
-/

namespace SessionServer.Token

/-- A token that is not read at a time is never read after it. -/
theorem read_error_of_le {secret : Bytes} {token : String} {now later : Nat} {error : Error}
    (refused : read secret token now = .error error) (order : now ≤ later) :
    ∀ claims, read secret token later ≠ .ok claims := by
  intro claims accepted
  obtain ⟨verified, early⟩ := verify?_of_read accepted
  rw [read_of_verify? verified, if_pos (Nat.lt_of_le_of_lt order early)] at refused
  cases refused

theorem read_eq_ok_iff_of_read {secret : Bytes} {token : String} {now : Nat} {claims : Claims}
    (accepted : read secret token now = .ok claims) (later : Nat) {others : Claims} :
    read secret token later = .ok others ↔ later < claims.expiresAt ∧ others = claims := by
  rw [read_of_verify? (verify?_of_read accepted).1]
  split
  next early => simp [early, eq_comm]
  next late => simp [late]

end SessionServer.Token

namespace SessionServer.Session
open Revocation (Register digest)
open Text.Decimal (maxSigned)

variable {secret : Bytes} {stores : Stores} {token : String} {now later : Nat}

/-- A logout that succeeds leaves a revocation until the token expires, if the token was read. -/
theorem logout_keeps {headers : Http.Headers} {claims : Token.Claims}
    (presented : Credential.presented? headers = some token)
    (accepted : (logout secret stores headers now).2 = .ok ())
    (read : Token.read secret token now = .ok claims) (bound : later < maxSigned)
    (unexpired : later < claims.expiresAt) :
    (logout secret stores headers now).1.Keeps (digest token) later := by
  rcases of_logout_eq_ok presented accepted with ⟨error, refused⟩ | ⟨other, register, found, answered,
    written⟩
  · rw [refused] at read
    cases read
  · cases found.symm.trans read
    rw [written]
    refine ⟨_, Stores.entries?_setRegister stores _, ?_⟩
    rw [Stores.setRegister_backing, Revocation.Backing.holds_revoke bound]
    simp [unexpired]

/-- A revocation that is kept is told by every answer. -/
theorem isRevoked_of_keeps {register : Register} (keeps : stores.Keeps (digest token) later)
    (answered : stores.register = .ok register) :
    (stores.backing.isRevoked register token later).2 = true := by
  obtain ⟨other, kept, held⟩ := keeps
  rw [(Stores.register_eq_ok_iff.mp answered).2] at kept
  cases kept
  rw [Revocation.Backing.isRevoked_snd, held]

end SessionServer.Session

namespace SessionServer.Server.State
open Revocation (digest)
open Text.Decimal (maxSigned)

variable {state : State} {operations : List Operation} {later : Nat}

@[simp] theorem run_setup (state : State) (operations : List Operation) :
    (state.run operations).1.setup = state.setup := by
  induction operations generalizing state with
  | nil => rfl
  | cons operation rest ih => rw [run_cons, ih, step_setup]

/-- A run that does not do away with all revocations keeps each one that still holds after it. -/
theorem run_keeps {key : Bytes} (retained : ∀ operation ∈ operations, operation.Retains state)
    (past : ∀ reading ∈ operations.filterMap Operation.reading?, reading ≤ later)
    (bound : later < maxSigned) (keeps : state.site.stores.Keeps key later) :
    (state.run operations).1.site.stores.Keeps key later := by
  induction operations generalizing state with
  | nil => exact keeps
  | cons operation rest ih =>
    have retains := retained operation List.mem_cons_self
    obtain ⟨first, others⟩ := readings_le_cons.mp past
    -- What an operation does without reading the clock it does at any time, so also at the last one.
    obtain ⟨now, order, clock⟩ : ∃ now, now ≤ later ∧
        ∀ reading, operation.reading? = some reading → reading = now := by
      cases reads : operation.reading? with
      | none => exact ⟨later, Nat.le_refl later, nofun⟩
      | some time =>
        refine ⟨time, first time reads, ?_⟩
        intro reading same
        exact (Option.some.inj same).symm
    have changes := step_changes retains clock
    rw [run_cons]
    refine ih ?_ others (changes.keeps order bound keeps)
    intro other member
    exact (retained other (List.mem_cons_of_mem _ member)).of_changes (step_setup state operation)
      changes

theorem step_isRevoked {register : Revocation.Register}
    (answered : state.site.stores.register = .ok register) (token : String) (now : Nat) :
    (state.step (.isRevoked token now)).2 =
      .truth (state.site.stores.backing.isRevoked register token now).2 := by
  show Operation.outcome .storeFault .truth (state.site.stores.isRevoked token now).2 = _
  rw [Session.Stores.isRevoked_of_register answered]
  rfl

theorem isRevoked_truth {register : Revocation.Register}
    (answered : state.site.stores.register = .ok register) (token : String) (now : Nat) :
    ∃ revoked, (state.step (.isRevoked token now)).2 = .truth revoked :=
  ⟨_, step_isRevoked answered token now⟩

/-- Once a request has logged out, no request that presents the same token is authenticated, after any
run that neither flushes the revocations, nor drops their table, nor restarts without them, and at any
time that is not before the logout or a reading of the clock in the run. If the token was read at the
logout, then until it expires it is found to be revoked whenever the register answers. -/
theorem logout_permanent {headers : Http.Headers} {now : Nat} {token : String}
    (presented : Credential.presented? headers = some token)
    (accepted : (state.step (.logout headers now)).2 = .done)
    (retained : ∀ operation ∈ operations, operation.Retains state)
    (past : ∀ reading ∈ now :: operations.filterMap Operation.reading?, reading ≤ later)
    (bound : later < maxSigned) {again : Http.Headers}
    (presentedAgain : Credential.presented? again = some token) :
    let after := ((state.step (.logout headers now)).1.run operations).1
    (∀ session, (after.step (.validate again later)).2 ≠ .authenticated session) ∧
    ∀ claims, Token.read state.setup.policy.secret token now = .ok claims → later < claims.expiresAt →
      (∃ revoked, (after.step (.isRevoked token later)).2 = .truth revoked) →
      (after.step (.validate again later)).2 = .sessionError .revokedToken := by
  intro after
  have order : now ≤ later := past now List.mem_cons_self
  have secret : after.setup.policy.secret = state.setup.policy.secret := by
    rw [run_setup, step_setup]
  have done : (Session.logout state.setup.policy.secret state.site.stores headers now).2 = .ok () := by
    obtain ⟨_, result, -⟩ := Operation.of_outcome accepted nofun
    exact result
  have keeps (claims : Token.Claims)
      (read : Token.read state.setup.policy.secret token now = .ok claims)
      (unexpired : later < claims.expiresAt) : after.site.stores.Keeps (digest token) later := by
    have changes : Session.Stores.Changes now state.site.stores
        (state.step (.logout headers now)).1.site.stores :=
      Session.logout_changes state.setup.policy.secret state.site.stores headers now
    refine run_keeps ?_ (fun reading member => past reading (List.mem_cons_of_mem _ member)) bound
      (Session.logout_keeps presented done read bound unexpired)
    intro operation member
    exact (retained operation member).of_changes (step_setup state _) changes
  refine ⟨?_, ?_⟩
  · intro session authenticated
    obtain ⟨found, good, -⟩ := Operation.of_outcome authenticated nofun
    rw [Session.validate_of_presented presentedAgain, secret] at good
    obtain ⟨⟨register, answered, notRevoked⟩, others, readLater⟩ :=
      Session.of_validateToken_eq_ok good
    cases read : Token.read state.setup.policy.secret token now with
    | error error => exact Token.read_error_of_le read order others readLater
    | ok claims =>
      obtain ⟨unexpired, -⟩ := (Token.read_eq_ok_iff_of_read read later).mp readLater
      rw [Session.isRevoked_of_keeps (keeps claims read unexpired) answered] at notRevoked
      cases notRevoked
  · intro claims read unexpired ⟨revoked, asked⟩
    obtain ⟨value, answer, -⟩ := Operation.of_outcome asked nofun
    obtain ⟨register, answered⟩ := Session.Stores.register_of_isRevoked answer
    have found := Session.isRevoked_of_keeps (keeps claims read unexpired) answered
    show Operation.outcome .sessionError .authenticated (Session.validate _ _ again later).2 = _
    rw [Session.validate_of_presented presentedAgain, Session.validateToken_of_isRevoked answered found]
    rfl

/-- A server on a file, with the tables of a new database. -/
def onFile : State :=
  let policy : Endpoint.Policy := { secret := [0x6B], sessionLifetime := 3600 }
  let setup : Setup := { policy := policy, backing := .database, path := "sessions.db" }
  let database : Database :=
    { path := some ["sessions.db"], tables := Database.Tables.empty.migrate.1 }
  { setup := setup, files := {}, site := { policy := policy, stores := freshStores setup database } }

theorem onFile_isDurable : onFile.IsDurable := by
  have understood : (Database.Location.ofPath "sessions.db").toOption =
      some { name := "sessions.db", create := true } := by decide +kernel
  have opened : (Database.Opened.ofLocation {} [] { name := "sessions.db", create := true }).toOption =
      some { storage := .file ["sessions.db"] } := by decide +kernel
  exact ⟨rfl, rfl, ["sessions.db"], rfl, {}, _, _, Database.eq_ok_of_toOption understood,
    Database.eq_ok_of_toOption opened, rfl⟩

/-- How a server in memory is set up. -/
def memorySetup : Setup :=
  { policy := { secret := [0x6B], sessionLifetime := 3600 }, backing := .memory, path := ":memory:" }

/-- A server in memory that has just been started. -/
def inMemory : State :=
  { setup := memorySetup, files := {}
    site :=
      { policy := memorySetup.policy
        stores := freshStores memorySetup { path := none, tables := Database.Tables.empty.migrate.1 } } }

theorem start_memorySetup : start memorySetup {} = ((start memorySetup {}).1, .ok inMemory) := by
  have started : (start memorySetup {}).2.toOption = some inMemory := by decide +kernel
  rw [← Database.eq_ok_of_toOption started]

/-- The token of a session of an hour. -/
def tokenOfAnHour : String := String.ofList (Token.sign [0x6B] Token.sessionOfAnHour)

theorem verify?_tokenOfAnHour : Token.verify? [0x6B] tokenOfAnHour = some Token.sessionOfAnHour :=
  Token.verify?_sign [0x6B] (by decide) (by decide) (by decide)

/-- Every token that is signed can be presented. -/
theorem presented?_sign (secret : Bytes) (claims : Token.Claims) :
    ∃ headers, Credential.presented? headers = some (String.ofList (Token.sign secret claims)) := by
  have visible : ∀ c ∈ Token.sign secret claims, Text.IsVisible c := by
    intro c member
    rw [Token.sign_eq_assemble] at member
    exact Token.isVisible_of_mem_assemble member
  have nonempty : Token.sign secret claims ≠ [] :=
    List.append_ne_nil_of_right_ne_nil _ (List.cons_ne_nil _ _)
  obtain ⟨headers, -, presented⟩ := Credential.presented?_of_isVisible visible nonempty
  exact ⟨headers, presented⟩

theorem presented?_tokenOfAnHour :
    ∃ headers, Credential.presented? headers = some tokenOfAnHour :=
  presented?_sign [0x6B] Token.sessionOfAnHour

/-- A session that was ended stays ended until its last second, though the server is restarted and purges
its revocations in between. -/
theorem logout_permanent_onFile :
    ∃ headers, Credential.presented? headers = some tokenOfAnHour ∧
      (onFile.step (.logout headers 1700000000)).2 = .done ∧
      (((onFile.step (.logout headers 1700000000)).1.run [.restart, .purge 1700003000]).1.step
        (.validate headers 1700003599)).2 = .sessionError .revokedToken := by
  have visible : ∀ c ∈ Token.sign [0x6B] Token.sessionOfAnHour, Text.IsVisible c := by
    intro c member
    rw [Token.sign_eq_assemble] at member
    exact Token.isVisible_of_mem_assemble member
  have nonempty : Token.sign [0x6B] Token.sessionOfAnHour ≠ [] :=
    List.append_ne_nil_of_right_ne_nil _ (List.cons_ne_nil _ _)
  obtain ⟨headers, -, presented⟩ := Credential.presented?_of_isVisible visible nonempty
  have verified : Token.verify? [0x6B] tokenOfAnHour = some Token.sessionOfAnHour :=
    Token.verify?_sign [0x6B] (by decide) (by decide) (by decide)
  have read : Token.read [0x6B] tokenOfAnHour 1700000000 = .ok Token.sessionOfAnHour :=
    Token.read_of_verify? verified _
  have serves : onFile.site.stores.Serves [] := ⟨rfl, by decide⟩
  have revokes := Session.logout_of_read presented read serves
  -- Logging out does what revoking the token does, which can be followed without the header fields.
  have same : (onFile.step (.logout headers 1700000000)).1 =
      (onFile.step (.revoke tokenOfAnHour 1700003600)).1 := by
    show onFile.withStores (Session.logout [0x6B] _ headers 1700000000).1 =
      onFile.withStores (onFile.site.stores.revoke tokenOfAnHour 1700003600).1
    rw [revokes, Session.Stores.revoke_of_serves serves]
    rfl
  have done : (onFile.step (.logout headers 1700000000)).2 = .done := by
    show Operation.outcome _ _ (Session.logout [0x6B] _ headers 1700000000).2 = _
    rw [revokes]
    rfl
  have retained : ∀ operation ∈ [Operation.restart, .purge 1700003000], operation.Retains onFile := by
    intro operation member
    rcases List.mem_cons.mp member with rfl | later
    · exact onFile_isDurable
    · rw [List.mem_singleton.mp later]
      trivial
  refine ⟨headers, presented, done, ?_⟩
  refine (logout_permanent presented done retained (by decide) (by decide) presented).2
    Token.sessionOfAnHour read (by decide) ?_
  have answers : ((((onFile.step (.revoke tokenOfAnHour 1700003600)).1.run
      [.restart, .purge 1700003000]).1.site.stores.register).toOption).isSome = true := by
    decide +kernel
  obtain ⟨register, answered⟩ := Option.isSome_iff_exists.mp answers
  rw [same]
  exact isRevoked_truth (Database.eq_ok_of_toOption answered) tokenOfAnHour 1700003599

end SessionServer.Server.State
