import SessionServer.Proofs.Session.Calls
import SessionServer.Proofs.Session.Verdicts

/-!
Stores that are the same but for what their registers hold. Whatever is asked of them, they answer alike
as far as the registers do: all else in an answer comes from what the stores have in common.
-/

namespace SessionServer

namespace Database

variable {first second : Database}

/-- Whether two databases have the same accounts, and can be asked and written to alike. -/
structure SharesAccounts (first second : Database) : Prop where
  isClosed : second.isClosed = first.isClosed
  writeFault : second.writeFault = first.writeFault
  accounts : second.tables.accounts = first.tables.accounts

/-- Whether the same has become of the accounts of two databases, and of nothing else in them. -/
def Follow (first second firstAfter secondAfter : Database) : Prop :=
  ∃ changed, firstAfter = { first with tables := { first.tables with accounts := changed } } ∧
    secondAfter = { second with tables := { second.tables with accounts := changed } }

theorem SharesAccounts.symm (shares : first.SharesAccounts second) : second.SharesAccounts first :=
  ⟨shares.isClosed.symm, shares.writeFault.symm, shares.accounts.symm⟩

theorem SharesAccounts.trans {third : Database} (shares : first.SharesAccounts second)
    (other : second.SharesAccounts third) : first.SharesAccounts third :=
  ⟨other.isClosed.trans shares.isClosed, other.writeFault.trans shares.writeFault,
    other.accounts.trans shares.accounts⟩

section SharesAccounts
variable (shares : first.SharesAccounts second)
include shares

theorem SharesAccounts.accounts_eq : second.accounts = first.accounts := by
  simp only [Database.accounts, shares.isClosed, shares.accounts]

theorem SharesAccounts.unchanged : Follow first second first second := by
  refine ⟨first.tables.accounts, rfl, ?_⟩
  rw [← shares.accounts]

theorem SharesAccounts.refusal?_eq (writes : Bool) : second.refusal? writes = first.refusal? writes := by
  simp only [refusal?, shares.writeFault]

/-- A statement is refused by both databases, or by neither. -/
theorem SharesAccounts.conclude {α : Type} (writes : Bool) {result : Database × Except Error α}
    {other : Database × Except Error α} (follow : Follow first second result.1 other.1) :
    Follow first second (Database.conclude (first.refusal? writes) first result).1
      (Database.conclude (second.refusal? writes) second other).1 := by
  rw [shares.refusal?_eq]
  cases first.refusal? writes with
  | some => exact shares.unchanged
  | none => exact follow

/-- What becomes of the accounts when one is created depends on them alone. -/
theorem createAccount_follow (email displayName passwordHash : String) :
    Follow first second (first.createAccount email displayName passwordHash).1
      (second.createAccount email displayName passwordHash).1 := by
  unfold createAccount
  rw [shares.accounts_eq]
  cases first.accounts with
  | error => exact shares.unchanged
  | ok table =>
    simp only
    split
    next created _ _ => exact shares.conclude true ⟨some created, rfl, rfl⟩
    next => exact shares.conclude false shares.unchanged

theorem deleteAccount_follow (id : Int) :
    Follow first second (first.deleteAccount id).1 (second.deleteAccount id).1 := by
  unfold deleteAccount
  rw [shares.accounts_eq]
  cases first.accounts with
  | error => exact shares.unchanged
  | ok table => exact shares.conclude _ ⟨some (table.delete id).1, rfl, rfl⟩

end SharesAccounts

end Database

namespace Session
open Revocation (Call Register digest)

namespace Stores

section Related
variable {R S : Register → Register → Prop} {one two three : Option Register}

theorem rel_imp (related : Option.Rel R one two) (weaker : ∀ one two, R one two → S one two) :
    Option.Rel S one two := by
  cases related with
  | none => exact .none
  | some related => exact .some (weaker _ _ related)

theorem rel_symm (related : Option.Rel R one two) (symm : ∀ one two, R one two → S two one) :
    Option.Rel S two one := by
  cases related with
  | none => exact .none
  | some related => exact .some (symm _ _ related)

theorem rel_trans (related : Option.Rel R one two) (further : Option.Rel R two three)
    (trans : ∀ one two three, R one two → R two three → R one three) : Option.Rel R one three := by
  cases related with
  | none => exact further
  | some related =>
    cases further with
    | some further => exact .some (trans _ _ _ related further)

end Related

/-- Whether two stores are the same but for their registers, and these are related: both are kept, or
neither is. -/
structure Matches (R : Register → Register → Prop) (first second : Stores) : Prop where
  backing : second.backing = first.backing
  unreachable : second.unreachable = first.unreachable
  database : first.database.SharesAccounts second.database
  people : second.people.uncounted = first.people.uncounted
  entries : Option.Rel R first.entries? second.entries?

variable {R S : Register → Register → Prop} {first second third : Stores} {token : String}
  {now : Nat}

theorem matches_refl (refl : ∀ register, first.entries? = some register → R register register) :
    Matches R first first := by
  refine ⟨rfl, rfl, ⟨rfl, rfl, rfl⟩, rfl, ?_⟩
  cases kept : first.entries? with
  | none => exact .none
  | some register => exact .some (refl register kept)

theorem Matches.imp (same : Matches R first second) (weaker : ∀ one two, R one two → S one two) :
    Matches S first second where
  backing := same.backing
  unreachable := same.unreachable
  database := same.database
  people := same.people
  entries := rel_imp same.entries weaker

theorem Matches.symm (same : Matches R first second) (symm : ∀ one two, R one two → S two one) :
    Matches S second first where
  backing := same.backing.symm
  unreachable := same.unreachable.symm
  database := same.database.symm
  people := same.people.symm
  entries := rel_symm same.entries symm

theorem Matches.trans (same : Matches R first second) (other : Matches R second third)
    (trans : ∀ one two three, R one two → R two three → R one three) : Matches R first third where
  backing := other.backing.trans same.backing
  unreachable := other.unreachable.trans same.unreachable
  database := same.database.trans other.database
  people := other.people.trans same.people
  entries := rel_trans same.entries other.entries trans

/-- Their registers fail for the same reason, or both answer. -/
theorem Matches.register (same : Matches R first second) :
    (∃ fault, first.register = .error fault ∧ second.register = .error fault) ∨
      ∃ one two, first.register = .ok one ∧ second.register = .ok two ∧ R one two := by
  have entries := same.entries
  unfold Stores.register contents Database.revokedTokens
  rw [same.unreachable, same.backing, same.database.isClosed]
  unfold entries? at entries
  rw [same.backing] at entries
  cases first.unreachable with
  | true => exact .inl ⟨.refused, rfl, rfl⟩
  | false =>
    generalize first.backing = backing at entries
    cases backing with
    | memory =>
      cases entries with
      | some related => exact .inr ⟨_, _, rfl, rfl, related⟩
    | database =>
      cases first.database.isClosed with
      | true => exact .inl ⟨.database .closed, rfl, rfl⟩
      | false =>
        generalize first.database.tables.revokedTokens = one at entries
        generalize second.database.tables.revokedTokens = two at entries
        cases one with
        | none =>
          cases two with
          | none => exact .inl ⟨_, rfl, rfl⟩
          | some => cases entries
        | some =>
          cases two with
          | none => cases entries
          | some =>
            cases entries with
            | some related => exact .inr ⟨_, _, rfl, rfl, related⟩

/-- Both registers can be written to, or neither can. -/
theorem Matches.isWritable_iff (same : Matches R first second) :
    second.IsWritable ↔ first.IsWritable := by
  rw [IsWritable, IsWritable, same.backing, same.database.writeFault]

/-- The same call to both registers leaves stores matching, if it leaves the registers related. -/
theorem Matches.receive (same : Matches R first second) {call : Option Call}
    (related : ∀ asked, call = some asked → ∀ one two, R one two →
      R (asked.apply first.backing one) (asked.apply first.backing two)) :
    Matches R (first.receive call) (second.receive call) := by
  have entries : Option.Rel R (first.receive call).entries? (second.receive call).entries? := by
    cases call with
    | none => exact same.entries
    | some call =>
      rcases same.register with ⟨fault, failed, otherFailed⟩ | ⟨one, two, answered, otherAnswered, kept⟩
      · rw [receive_of_fault failed, receive_of_fault otherFailed]
        exact same.entries
      · by_cases writable : first.IsWritable
        · rw [receive_of_serves ⟨answered, writable⟩,
            receive_of_serves ⟨otherAnswered, same.isWritable_iff.mpr writable⟩, entries?_setRegister,
            entries?_setRegister, same.backing]
          exact .some (related call rfl one two kept)
        · rw [receive_of_unwritable writable, receive_of_unwritable (mt same.isWritable_iff.mp writable)]
          exact same.entries
  obtain ⟨_, _, framed⟩ := first.receive_frame call
  obtain ⟨_, _, otherFramed⟩ := second.receive_frame call
  rw [framed, otherFramed] at entries ⊢
  exact ⟨same.backing, same.unreachable, ⟨same.database.isClosed, same.database.writeFault,
    same.database.accounts⟩, same.people, entries⟩

/-- Stores match what a call has made of them, if it leaves their register related to what it was. -/
theorem matches_receive {call : Option Call}
    (refl : ∀ register, first.entries? = some register → R register register)
    (related : ∀ asked register, call = some asked → first.entries? = some register →
      R register (asked.apply first.backing register)) :
    Matches R first (first.receive call) := by
  have entries : Option.Rel R first.entries? (first.receive call).entries? := by
    rcases first.entries?_receive call with same | ⟨asked, register, rfl, kept, changed⟩
    · rw [same]
      exact (matches_refl refl).entries
    · rw [kept, changed]
      exact .some (related asked register rfl kept)
  obtain ⟨_, _, framed⟩ := first.receive_frame call
  rw [framed] at entries ⊢
  exact ⟨rfl, rfl, ⟨rfl, rfl, rfl⟩, rfl, entries⟩

/-- Stores still match when questions about people were counted. -/
theorem Matches.withPeople (same : Matches R first second) {people others : People}
    (counted : others.uncounted = people.uncounted) :
    Matches R { first with people := people } { second with people := others } :=
  ⟨same.backing, same.unreachable, same.database, counted, same.entries⟩

/-- Stores still match when the same of them go out of reach or come into reach. -/
theorem Matches.withReach (same : Matches R first second) (unreachable : Bool) {people others : People}
    (counted : others.uncounted = people.uncounted) :
    Matches R { first with unreachable := unreachable, people := people }
      { second with unreachable := unreachable, people := others } :=
  ⟨same.backing, rfl, same.database, counted, same.entries⟩

/-- Stores still match when their accounts have become the same. -/
theorem Matches.withAccounts (same : Matches R first second) (accounts : Option Accounts) :
    Matches R
      { first with
        database := { first.database with
          tables := { first.database.tables with accounts := accounts } } }
      { second with
        database := { second.database with
          tables := { second.database.tables with accounts := accounts } } } :=
  ⟨same.backing, same.unreachable, ⟨same.database.isClosed, same.database.writeFault, rfl⟩, same.people,
    same.entries⟩

theorem Matches.close (same : Matches R first second) :
    Matches R { first with database := first.database.close }
      { second with database := second.database.close } :=
  ⟨same.backing, same.unreachable, ⟨rfl, same.database.writeFault, same.database.accounts⟩, same.people,
    same.entries⟩

theorem Matches.dropRevokedTokens (same : Matches R first second) :
    Matches R { first with database := first.database.dropRevokedTokens }
      { second with database := second.database.dropRevokedTokens } := by
  refine ⟨same.backing, same.unreachable, ⟨same.database.isClosed, same.database.writeFault,
    same.database.accounts⟩, same.people, ?_⟩
  have entries := same.entries
  unfold entries? at entries ⊢
  simp only [same.backing] at entries ⊢
  cases kept : first.backing with
  | memory =>
    simp only [kept] at entries
    exact entries
  | database => exact .none

theorem Matches.isRevoked_snd (same : Matches R first second)
    (agree : ∀ one two, R one two → one.holds (digest token) (first.backing.kept now) =
      two.holds (digest token) (first.backing.kept now)) :
    (first.isRevoked token now).2 = (second.isRevoked token now).2 := by
  rcases same.register with ⟨fault, failed, otherFailed⟩ | ⟨one, two, answered, otherAnswered, kept⟩
  · simp only [isRevoked, failed, otherFailed]
  · rw [isRevoked_of_register answered, isRevoked_of_register otherAnswered, same.backing,
      Revocation.Backing.isRevoked_snd, Revocation.Backing.isRevoked_snd, agree one two kept]

/-- A call is refused by both stores, or by neither. -/
theorem Matches.conclude_snd (same : Matches R first second) {α : Type} (writes : Bool)
    {result other : Stores × Except StoreFault α} (told : result.2 = other.2) :
    (Database.conclude (first.refusal? writes) first result).2 =
      (Database.conclude (second.refusal? writes) second other).2 := by
  rw [show second.refusal? writes = first.refusal? writes by
    simp only [refusal?, same.backing, same.database.refusal?_eq]]
  cases first.refusal? writes with
  | some => rfl
  | none => exact told

theorem Matches.revoke_snd (same : Matches R first second) (token : String) (expiry : Nat) :
    (first.revoke token expiry).2 = (second.revoke token expiry).2 := by
  rcases same.register with ⟨fault, failed, otherFailed⟩ | ⟨one, two, answered, otherAnswered, -⟩
  · simp only [revoke, failed, otherFailed]
  · simp only [revoke, answered, otherAnswered]
    exact same.conclude_snd true rfl

theorem Matches.principal_snd (same : Matches R first second) (id : Int) :
    (first.principal id).2 = (second.principal id).2 := by
  have people := same.people
  have known : first.accountPrincipal id = second.accountPrincipal id := by
    simp only [accountPrincipal, Database.accountById, same.database.accounts_eq]
  unfold principal
  cases asked : first.people with
  | database =>
    cases otherAsked : second.people with
    | database => exact known
    | listed => simp [asked, otherAsked, People.uncounted] at people
  | listed principals unreachable lookups =>
    cases otherAsked : second.people with
    | database => simp [asked, otherAsked, People.uncounted] at people
    | listed others out count =>
      simp only [asked, otherAsked, People.uncounted, People.listed.injEq, and_true] at people
      obtain ⟨rfl, rfl⟩ := people
      simp only
      split <;> rfl

/-- Who is known does not depend on the registers, also not after they were asked. -/
theorem Matches.known (same : Matches R first second) (token : String) (now : Nat) :
    (fun id => ((first.isRevoked token now).1.principal id).2) =
      fun id => ((second.isRevoked token now).1.principal id).2 := by
  funext id
  have unrelated : Matches (fun _ _ => True) first second := same.imp fun _ _ _ => trivial
  rw [isRevoked_fst, isRevoked_fst]
  exact (unrelated.receive fun _ _ _ _ _ => trivial).principal_snd id

theorem Matches.validateToken_snd (same : Matches R first second)
    (agree : ∀ one two, R one two → one.holds (digest token) (first.backing.kept now) =
      two.holds (digest token) (first.backing.kept now)) (secret : Bytes) :
    (validateToken secret first token now).2 = (validateToken secret second token now).2 := by
  rw [Session.validateToken_snd, Session.validateToken_snd, same.isRevoked_snd agree, same.known]

theorem Matches.validate_snd (same : Matches R first second) {headers : Http.Headers}
    (agree : ∀ token, Credential.presented? headers = some token → ∀ one two, R one two →
      one.holds (digest token) (first.backing.kept now) =
        two.holds (digest token) (first.backing.kept now)) (secret : Bytes) :
    (validate secret first headers now).2 = (validate secret second headers now).2 := by
  unfold validate
  cases presented : Credential.presented? headers with
  | none => rfl
  | some token => exact same.validateToken_snd (agree token presented) secret

theorem Matches.recheck_snd (same : Matches R first second) {session : Authenticated}
    (agree : ∀ one two, R one two → one.holds (digest session.token) (first.backing.kept now) =
      two.holds (digest session.token) (first.backing.kept now)) :
    (recheck first session now).2 = (recheck second session now).2 := by
  rw [Session.recheck_snd, Session.recheck_snd, same.isRevoked_snd agree]

theorem Matches.logout_snd (same : Matches R first second) (secret : Bytes) (headers : Http.Headers)
    (now : Nat) : (logout secret first headers now).2 = (logout secret second headers now).2 := by
  simp only [Session.logout_snd, same.revoke_snd]

end Stores

end Session

end SessionServer
