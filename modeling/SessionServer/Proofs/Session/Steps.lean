import SessionServer.Proofs.Account.Rows
import SessionServer.Proofs.Session.Calls

/-!
What may become of the stores in one step: the register takes one call at most, and the table of accounts
changes in one of its ways at most. All else stays, but for what is in reach and who is on a list of people.
-/

namespace SessionServer

namespace Database

/-- Whether at most the table of accounts has changed, and that in one of its ways, or is lost. -/
def Edits (deleted : Option Int) (before after : Database) : Prop :=
  ∃ accounts, after = { before with tables := { before.tables with accounts := accounts } } ∧
    ∀ changed, accounts = some changed →
      ∃ old, before.tables.accounts = some old ∧ Accounts.Change deleted old changed

variable {deleted : Option Int} {before : Database}

theorem edits_refl (database : Database) : database.Edits deleted database :=
  ⟨database.tables.accounts, rfl, fun changed kept => ⟨changed, kept, .keep⟩⟩

theorem edits_dropAccounts (database : Database) : database.Edits deleted database.dropAccounts :=
  ⟨none, rfl, nofun⟩

theorem accounts_eq_ok_iff {database : Database} {accounts : Accounts} :
    database.accounts = .ok accounts ↔
      database.isClosed = false ∧ database.tables.accounts = some accounts := by
  unfold Database.accounts
  cases database.isClosed with
  | true => simp
  | false =>
    cases database.tables.accounts with
    | none => simp
    | some other => simp

/-- Whether the accounts can be asked and written to, and what they are. -/
structure Serves (database : Database) (accounts : Accounts) : Prop where
  answered : database.accounts = .ok accounts
  writable : database.writeFault = none

theorem Serves.setAccounts {database : Database} {accounts : Accounts} (serves : database.Serves accounts)
    (changed : Accounts) : (database.setAccounts changed).Serves changed where
  answered := accounts_eq_ok_iff.mpr ⟨(accounts_eq_ok_iff.mp serves.answered).1, rfl⟩
  writable := serves.writable

theorem createAccount_of_refusal {database : Database} {accounts : Accounts} {refusal : Accounts.Refusal}
    {email displayName passwordHash : String} (serves : database.Serves accounts)
    (refused : accounts.create email displayName passwordHash = .error refusal) :
    database.createAccount email displayName passwordHash = (database, .error (.ofRefusal refusal)) := by
  simp only [createAccount, serves.answered, refused, refusal?_of_writable serves.writable, conclude]

theorem deleteAccount_of_serves {database : Database} {accounts : Accounts}
    (serves : database.Serves accounts) (id : Int) :
    database.deleteAccount id =
      (database.setAccounts (accounts.delete id).1, .ok (accounts.delete id).2) := by
  simp only [deleteAccount, serves.answered, refusal?_of_writable serves.writable, conclude]

/-- An account is created and written, or nothing is. -/
theorem createAccount_cases (database : Database) (email displayName passwordHash : String) :
    (∃ fault, database.createAccount email displayName passwordHash = (database, .error fault)) ∨
      ∃ accounts table id, database.Serves accounts ∧
        accounts.create email displayName passwordHash = .ok (table, id) ∧
        database.createAccount email displayName passwordHash = (database.setAccounts table, .ok id) := by
  unfold createAccount
  split
  next fault _ => exact .inl ⟨fault, rfl⟩
  next accounts answered =>
    split
    next table id created =>
      cases writable : database.writeFault with
      | none =>
        refine .inr ⟨accounts, table, id, ⟨answered, writable⟩, created, ?_⟩
        rw [refusal?_true, writable, conclude]
      | some fault => exact .inl ⟨fault, by rw [refusal?_true, writable, conclude]⟩
    next refusal _ =>
      rcases conclude_cases (database.refusal? false) database _ with refused | unwritten
      · exact .inl refused
      · exact .inl ⟨.ofRefusal refusal, unwritten⟩

/-- An account is deleted if it is there, or nothing is written. -/
theorem deleteAccount_cases (database : Database) (id : Int) :
    (∃ fault, database.deleteAccount id = (database, .error fault)) ∨
      ∃ accounts, database.accounts = .ok accounts ∧
        database.deleteAccount id =
          (database.setAccounts (accounts.delete id).1, .ok (accounts.delete id).2) := by
  unfold deleteAccount
  split
  next fault _ => exact .inl ⟨fault, rfl⟩
  next accounts answered =>
    rcases conclude_cases (database.refusal? (accounts.delete id).2) database _ with
      ⟨fault, refused⟩ | written
    · exact .inl ⟨fault, refused⟩
    · exact .inr ⟨accounts, answered, written⟩

theorem createAccount_edits (database : Database) (email displayName passwordHash : String) :
    database.Edits deleted (database.createAccount email displayName passwordHash).1 := by
  rcases database.createAccount_cases email displayName passwordHash with
    ⟨fault, refused⟩ | ⟨accounts, table, id, serves, created, written⟩
  · rw [refused]
    exact edits_refl database
  · rw [written]
    refine ⟨some table, rfl, ?_⟩
    intro other same
    cases same
    exact ⟨accounts, (accounts_eq_ok_iff.mp serves.answered).2, .create created⟩

theorem deleteAccount_edits (database : Database) (id : Int) :
    database.Edits (some id) (database.deleteAccount id).1 := by
  rcases database.deleteAccount_cases id with ⟨fault, refused⟩ | ⟨accounts, answered, written⟩
  · rw [refused]
    exact edits_refl database
  · rw [written]
    refine ⟨some (accounts.delete id).1, rfl, ?_⟩
    intro other same
    cases same
    exact ⟨accounts, (accounts_eq_ok_iff.mp answered).2, .delete rfl⟩

end Database

namespace Session.Stores
open Revocation (Call)

/-- What may have become of the stores by a step: the call that it puts to the register, the account that
it deletes, and whether it loses the table of revocations. -/
structure Step (call : Option Call) (deleted : Option Int) (loses : Prop) (before after : Stores) : Prop
    where
  backing : after.backing = before.backing
  beside : before.database.IsBeside after.database
  version : after.database.tables.version = before.database.tables.version
  people : before.people = .database → after.people = .database
  entries : after.entries? = (before.receive call).entries? ∨ loses ∧ after.entries? = none
  accounts : ∀ changed, after.database.tables.accounts = some changed →
    ∃ old, before.database.tables.accounts = some old ∧ Accounts.Change deleted old changed

variable {call : Option Call} {deleted : Option Int} {loses : Prop}

theorem step_receive {stores : Stores} {people : People}
    (counted : people.uncounted = stores.people.uncounted) (call : Option Call) :
    stores.Step call deleted loses { stores.receive call with people := people } := by
  obtain ⟨memory, revokedTokens, same⟩ := stores.receive_frame call
  have beside : stores.database.IsBeside (stores.receive call).database := by
    rw [same]
    exact ⟨rfl, rfl⟩
  refine ⟨by rw [same], beside, by rw [same], People.eq_database_of_uncounted counted, .inl rfl, ?_⟩
  intro changed kept
  rw [same] at kept
  exact ⟨changed, kept, .keep⟩

/-- What keeps the register and the tables is no step at all. -/
theorem step_of_same {before after : Stores} (backing : after.backing = before.backing)
    (memory : after.memory = before.memory) (beside : before.database.IsBeside after.database)
    (tables : after.database.tables = before.database.tables)
    (people : before.people = .database → after.people = .database) :
    before.Step none deleted loses after := by
  refine ⟨backing, beside, by rw [tables], people, .inl ?_, ?_⟩
  · simp only [receive_none, entries?, backing, memory, tables]
  · intro changed kept
    exact ⟨changed, tables ▸ kept, .keep⟩

theorem step_refl (stores : Stores) : stores.Step none deleted loses stores :=
  step_of_same rfl rfl ⟨rfl, rfl⟩ rfl id

theorem step_dropRevokedTokens (stores : Stores) :
    stores.Step none deleted True
      { stores with database := stores.database.dropRevokedTokens } := by
  refine ⟨rfl, ⟨rfl, rfl⟩, rfl, id, ?_, fun changed kept => ⟨changed, kept, .keep⟩⟩
  simp only [receive_none, entries?]
  cases stores.backing with
  | memory => exact .inl rfl
  | database => exact .inr ⟨trivial, rfl⟩

theorem step_edits (stores : Stores) {database : Database}
    (edits : stores.database.Edits deleted database) :
    stores.Step none deleted loses { stores with database := database } := by
  obtain ⟨accounts, rfl, change⟩ := edits
  exact ⟨rfl, ⟨rfl, rfl⟩, rfl, id, .inl rfl, change⟩

end Session.Stores

end SessionServer
