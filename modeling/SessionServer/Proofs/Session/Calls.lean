import SessionServer.Proofs.Revocation.Entries
import SessionServer.Proofs.Session.Changes

/-!
What is asked of the register when sessions are checked and ended. Each check and each logout puts one
call to the register at most, and writes nothing else into the stores.
-/

namespace SessionServer

/-- Short of a flush, a call changes the register in one of the usual ways. -/
theorem Revocation.Call.change {backing : Backing} {register : Register} {now : Nat} (call : Call)
    (unflushed : call ≠ .flush) (timed : ∀ reading, call.reading? = some reading → reading = now) :
    Change backing now register (call.apply backing register) := by
  cases call with
  | revoke token expiry => exact .revoke token expiry
  | ask token time =>
    cases timed time rfl
    exact .ask token
  | purge time =>
    cases timed time rfl
    exact .purge
  | flush => exact absurd rfl unflushed

namespace Session
open Revocation (Call Register digest)

/-- Those who are asked, however often they were. -/
def People.uncounted : People → People
  | .database => .database
  | .listed principals unreachable _ => .listed principals unreachable 0

theorem People.eq_database_of_uncounted {people others : People}
    (same : people.uncounted = others.uncounted) (asked : others = .database) : people = .database := by
  rw [asked] at same
  cases people with
  | database => rfl
  | listed => cases same

namespace Stores

/-- The stores after a call to their register, if there is one, and the register can be asked and written
to. -/
def receive (stores : Stores) (call : Option Call) : Stores :=
  match call, stores.register with
  | some call, .ok register =>
      if stores.IsWritable then stores.setRegister (call.apply stores.backing register) else stores
  | _, _ => stores

variable {stores : Stores} {register : Register}

@[simp] theorem receive_none (stores : Stores) : stores.receive none = stores := rfl

theorem receive_of_serves (serves : stores.Serves register) (call : Call) :
    stores.receive (some call) = stores.setRegister (call.apply stores.backing register) := by
  simp only [receive, serves.answered, if_pos serves.writable]

theorem receive_of_not_serves (refuses : ∀ register, ¬ stores.Serves register) (call : Option Call) :
    stores.receive call = stores := by
  unfold receive
  split
  next register answered =>
    apply if_neg
    exact fun writable => refuses register ⟨answered, writable⟩
  next => rfl

theorem receive_of_unwritable (unwritable : ¬ stores.IsWritable) (call : Option Call) :
    stores.receive call = stores :=
  receive_of_not_serves (fun _ serves => unwritable serves.writable) call

/-- A question is answered also where nothing can be written, as it writes only into a register in memory. -/
theorem receive_ask_of_register (answered : stores.register = .ok register) (token : String) (now : Nat) :
    stores.receive (some (.ask token now)) =
      stores.setRegister (stores.backing.isRevoked register token now).1 := by
  by_cases writable : stores.IsWritable
  · rw [receive_of_serves ⟨answered, writable⟩, Call.apply]
  · have inDatabase := (Classical.not_imp.mp writable).1
    rw [receive_of_unwritable writable, inDatabase, Revocation.Backing.isRevoked_fst_database,
      setRegister_of_register answered]

theorem receive_of_fault {fault : StoreFault} (failed : stores.register = .error fault)
    (call : Option Call) : stores.receive call = stores := by
  apply receive_of_not_serves
  intro register serves
  rw [serves.answered] at failed
  cases failed

/-- A call writes into the register and nowhere else. -/
theorem receive_frame (stores : Stores) (call : Option Call) :
    ∃ memory revokedTokens, stores.receive call =
      { stores with
        memory := memory
        database := { stores.database with
          tables := { stores.database.tables with revokedTokens := revokedTokens } } } := by
  have unchanged : ∃ memory revokedTokens, stores =
      { stores with
        memory := memory
        database := { stores.database with
          tables := { stores.database.tables with revokedTokens := revokedTokens } } } :=
    ⟨stores.memory, stores.database.tables.revokedTokens, rfl⟩
  unfold receive setRegister
  split
  next =>
    split
    next =>
      split
      next => exact ⟨_, stores.database.tables.revokedTokens, rfl⟩
      next => exact ⟨stores.memory, _, rfl⟩
    next => exact unchanged
  next => exact unchanged

@[simp] theorem receive_people (stores : Stores) (call : Option Call) :
    (stores.receive call).people = stores.people := by
  obtain ⟨_, _, same⟩ := stores.receive_frame call
  rw [same]

@[simp] theorem receive_isClosed (stores : Stores) (call : Option Call) :
    (stores.receive call).database.isClosed = stores.database.isClosed := by
  obtain ⟨_, _, same⟩ := stores.receive_frame call
  rw [same]

@[simp] theorem receive_isWritable (stores : Stores) (call : Option Call) :
    (stores.receive call).IsWritable ↔ stores.IsWritable := by
  obtain ⟨_, _, same⟩ := stores.receive_frame call
  rw [same]
  exact Iff.rfl

/-- A register in the database leaves the memory as it is. -/
theorem receive_memory (inDatabase : stores.backing = .database) (call : Option Call) :
    (stores.receive call).memory = stores.memory := by
  unfold receive setRegister
  rw [inDatabase]
  split
  next =>
    split
    next => rfl
    next => rfl
  next => rfl

/-- Who is asked for accounts does not matter to a call. -/
theorem receive_withPeople (stores : Stores) (people : People) (call : Option Call) :
    ({ stores with people := people } : Stores).receive call =
      { stores.receive call with people := people } := by
  have same : ({ stores with people := people } : Stores).register = stores.register := rfl
  have writable : ({ stores with people := people } : Stores).IsWritable ↔ stores.IsWritable := Iff.rfl
  unfold receive
  rw [same]
  split
  next =>
    simp only [writable]
    split
    next =>
      unfold setRegister
      cases stores.backing <;> rfl
    next => rfl
  next => rfl

/-- The entries after a call come from it, or nothing could be asked. -/
theorem entries?_receive (stores : Stores) (call : Option Call) :
    (stores.receive call).entries? = stores.entries? ∨
      ∃ asked register, call = some asked ∧ stores.entries? = some register ∧
        (stores.receive call).entries? = some (asked.apply stores.backing register) := by
  cases call with
  | none => exact .inl rfl
  | some asked =>
    by_cases writable : stores.IsWritable
    case neg => exact .inl (by rw [receive_of_unwritable writable])
    cases answered : stores.register with
    | error fault => exact .inl (by rw [receive_of_fault answered])
    | ok register =>
      refine .inr ⟨asked, register, rfl, (register_eq_ok_iff.mp answered).2, ?_⟩
      rw [receive_of_serves ⟨answered, writable⟩, entries?_setRegister]

theorem revoke_fst (stores : Stores) (token : String) (expiry : Nat) :
    (stores.revoke token expiry).1 = stores.receive (some (.revoke token expiry)) := by
  by_cases writable : stores.IsWritable
  · simp only [revoke, receive, refusal?_of_isWritable writable, Database.conclude, if_pos writable]
    cases stores.register <;> rfl
  · obtain ⟨fault, refused⟩ := revoke_of_unwritable writable token expiry
    rw [refused, receive_of_unwritable writable]

theorem isRevoked_fst (stores : Stores) (token : String) (now : Nat) :
    (stores.isRevoked token now).1 = stores.receive (some (.ask token now)) := by
  cases answered : stores.register with
  | error fault => simp only [isRevoked, answered, receive_of_fault answered]
  | ok register => rw [isRevoked_of_register answered, receive_ask_of_register answered]

theorem purge_fst (stores : Stores) (now : Nat) :
    (stores.purge now).1 = stores.receive (some (.purge now)) := by
  by_cases writable : stores.IsWritable
  · simp only [purge, receive, refusal?_of_isWritable writable, Database.conclude, if_pos writable]
    cases stores.register <;> rfl
  · rw [receive_of_unwritable writable]
    rcases purge_of_unwritable writable now with ⟨fault, refused⟩ | idle
    · rw [refused]
    · rw [idle]

/-- A question about a principal is counted, and leaves all else as it is. -/
theorem principal_frame (stores : Stores) (id : Int) :
    ∃ people, people.uncounted = stores.people.uncounted ∧
      (stores.principal id).1 = { stores with people := people } := by
  unfold principal
  split
  next asked => exact ⟨stores.people, rfl, rfl⟩
  next principals unreachable lookups asked =>
    refine ⟨.listed principals unreachable (lookups + 1), by rw [asked]; rfl, ?_⟩
    split
    next => rfl
    next => rfl

/-- Where the database knows the accounts, a call to the register changes no answer about them. -/
theorem principal_receive (asked : stores.people = .database) (call : Option Call) (id : Int) :
    ((stores.receive call).principal id).2 = stores.accountPrincipal id := by
  obtain ⟨memory, revokedTokens, same⟩ := stores.receive_frame call
  rw [same]
  simp only [principal, asked]
  rfl

theorem flush_fst (stores : Stores) : stores.flush.1 = stores.receive (some .flush) := by
  by_cases writable : stores.IsWritable
  · simp only [flush, receive, refusal?_of_isWritable writable, Database.conclude, if_pos writable]
    cases stores.register <;> rfl
  · obtain ⟨fault, refused⟩ := flush_of_unwritable writable
    rw [refused, receive_of_unwritable writable]

end Stores

/-- The call of a logout: it revokes a token that is read, until the token expires. -/
def logoutCall? (secret : Bytes) (headers : Http.Headers) (now : Nat) : Option Call :=
  match Credential.presented? headers with
  | none => none
  | some token =>
      match Token.read secret token now with
      | .ok claims => some (.revoke token claims.expiresAt)
      | .error _ => none

/-- The call of a check: it asks for the token that is presented. -/
def checkCall? (headers : Http.Headers) (now : Nat) : Option Call :=
  (Credential.presented? headers).map (.ask · now)

theorem logoutCall?_of_read {secret : Bytes} {headers : Http.Headers} {token : String}
    {claims : Token.Claims} {now : Nat} (presented : Credential.presented? headers = some token)
    (read : Token.read secret token now = .ok claims) :
    logoutCall? secret headers now = some (.revoke token claims.expiresAt) := by
  simp only [logoutCall?, presented, read]

/-- A logout that revokes anything revokes a token that was presented and read. -/
theorem logoutCall?_eq_some {secret : Bytes} {headers : Http.Headers} {now : Nat} {call : Call}
    (called : logoutCall? secret headers now = some call) :
    ∃ token claims, Credential.presented? headers = some token ∧
      Token.read secret token now = .ok claims ∧ call = .revoke token claims.expiresAt := by
  unfold logoutCall? at called
  split at called
  next => cases called
  next token presented =>
    split at called
    next claims read => exact ⟨token, claims, presented, read, (Option.some.inj called).symm⟩
    next => cases called

theorem validateToken_fst (secret : Bytes) (stores : Stores) (token : String) (now : Nat) :
    ∃ people, people.uncounted = stores.people.uncounted ∧
      (validateToken secret stores token now).1 =
        { stores.receive (some (.ask token now)) with people := people } := by
  have asked := Stores.isRevoked_fst stores token now
  rw [← checkNotRevoked_fst] at asked
  unfold validateToken
  split
  next checked =>
    rw [checked] at asked
    exact ⟨_, congrArg People.uncounted (stores.receive_people _), asked⟩
  next checkedStores checked =>
    rw [checked] at asked
    obtain rfl : checkedStores = _ := asked
    split
    next => exact ⟨_, congrArg People.uncounted (stores.receive_people _), rfl⟩
    next claims _ =>
      obtain ⟨people, counted, same⟩ :=
        Stores.principal_frame (stores.receive (some (.ask token now))) claims.subject
      rw [← checkKnown_fst] at same
      rw [Stores.receive_people] at counted
      refine ⟨people, counted, ?_⟩
      split
      next found =>
        rw [found] at same
        exact same
      next found =>
        rw [found] at same
        exact same

theorem validate_fst (secret : Bytes) (stores : Stores) (headers : Http.Headers) (now : Nat) :
    ∃ people, people.uncounted = stores.people.uncounted ∧
      (validate secret stores headers now).1 =
        { stores.receive (checkCall? headers now) with people := people } := by
  unfold validate checkCall?
  cases Credential.presented? headers with
  | none => exact ⟨stores.people, rfl, rfl⟩
  | some token => exact validateToken_fst secret stores token now

theorem logout_fst (secret : Bytes) (stores : Stores) (headers : Http.Headers) (now : Nat) :
    (logout secret stores headers now).1 = stores.receive (logoutCall? secret headers now) := by
  unfold logout logoutCall?
  cases Credential.presented? headers with
  | none => rfl
  | some token =>
    simp only
    cases Token.read secret token now with
    | error error => rfl
    | ok claims =>
      have revoked := Stores.revoke_fst stores token claims.expiresAt
      simp only
      split
      next written =>
        rw [written] at revoked
        exact revoked
      next written =>
        rw [written] at revoked
        exact revoked

end Session

end SessionServer
