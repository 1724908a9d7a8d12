import SessionServer.Proofs.Account.Mailbox
import SessionServer.Proofs.Endpoint.Registration
import SessionServer.Proofs.Server.Runs
import SessionServer.Proofs.Server.Steps

/-!
Which accounts a server has after a run. Its accounts stay sound; an id stays with the account that it was
first given to; and an account stays until it is deleted.
-/

namespace SessionServer

theorem Database.accountById_eq_ok_iff {database : Database} {id : Int} {found : Option Account} :
    database.accountById id = .ok found ↔
      ∃ accounts, database.accounts = .ok accounts ∧ accounts.byId? id = found := by
  unfold accountById
  cases database.accounts with
  | error => simp
  | ok accounts => simp

theorem Database.accountByEmail_eq_ok_iff {database : Database} {email : String}
    {found : Option Account} :
    database.accountByEmail email = .ok found ↔
      ∃ accounts, database.accounts = .ok accounts ∧ accounts.byEmail? email = found := by
  unfold accountByEmail
  cases database.accounts with
  | error => simp
  | ok accounts => simp

namespace Server.State

variable {state : State} {operations : List Operation} {account : Account}

theorem accountById_of_step {id : Int} {found : Option Account}
    (looked : (state.step (.accountById id)).2 = .account found) :
    state.site.stores.database.accountById id = .ok found := by
  obtain ⟨other, looked, same⟩ := Operation.of_outcome looked nofun
  cases same
  exact looked

theorem accountById_answers {accounts : Accounts}
    (there : state.site.stores.database.accounts = .ok accounts) (id : Int) :
    ∃ looked, (state.step (.accountById id)).2 = .account looked := by
  have looked : state.site.stores.database.accountById id = .ok (accounts.byId? id) :=
    Database.accountById_eq_ok_iff.mpr ⟨accounts, there, rfl⟩
  exact ⟨_, congrArg (Operation.outcome .databaseError .account) looked⟩

/-- What holds of the accounts of a server is known of those that its database shows. -/
theorem AccountsAre.of_eq_ok {P : Accounts → Prop} (are : state.AccountsAre P) {accounts : Accounts}
    (there : state.site.stores.database.accounts = .ok accounts) : P accounts :=
  are accounts (Database.accounts_eq_ok_iff.mp there).2

/-- A deletion that does not tell of an account leaves it there. -/
theorem mem_of_deleteAccount {changed : Accounts} (member : state.AccountsAre (account ∈ ·.rows))
    (undeleted : (state.step (.deleteAccount account.id)).2 ≠ .truth true)
    (present : (state.step (.deleteAccount account.id)).1.site.stores.database.tables.accounts =
      some changed) : account ∈ changed.rows := by
  have written : (state.site.stores.database.deleteAccount account.id).1.tables.accounts = some changed :=
    present
  have told : (state.site.stores.database.deleteAccount account.id).2 ≠ .ok true := fun deleted =>
    undeleted (congrArg (Operation.outcome .databaseError .truth) deleted)
  rcases state.site.stores.database.deleteAccount_cases account.id with
    ⟨fault, refused⟩ | ⟨accounts, answered, deleted⟩
  · rw [refused] at written
    exact member changed written
  · have found : (accounts.byId? account.id).isSome = true :=
      List.find?_isSome.mpr ⟨account, member.of_eq_ok answered, decide_eq_true rfl⟩
    rw [deleted] at told
    exact absurd (congrArg Except.ok found) told

/-- Once an account was deleted, its id is retired. -/
theorem retired_of_deleteAccount {found : Bool}
    (deleted : (state.step (.deleteAccount account.id)).2 = .truth found)
    (reserves : state.AccountsAre (·.Reserves account)) :
    (state.step (.deleteAccount account.id)).1.AccountsAre (·.Retired account.id) := by
  intro changed present
  obtain ⟨_, done, -⟩ := Operation.of_outcome deleted nofun
  have edited : (state.site.stores.database.deleteAccount account.id).1.tables.accounts =
      some changed := present
  rcases state.site.stores.database.deleteAccount_cases account.id with
    ⟨fault, refused⟩ | ⟨accounts, answered, written⟩
  · rw [refused] at done
    cases done
  · rw [written] at edited
    cases edited
    exact (reserves.of_eq_ok answered).retired_delete

/-- Whether a run spares an account: it finds the table of accounts again after each restart, and does
not delete the account. -/
structure Spares (state : State) (id : Int) (operations : List Operation) : Prop where
  kept : ∀ operation ∈ operations, operation.KeepsAccounts state
  undeleted : (.deleteAccount id, .truth true) ∉ operations.zip (state.run operations).2

theorem spares_nil (state : State) (id : Int) : state.Spares id [] where
  kept _ member := absurd member List.not_mem_nil
  undeleted := List.not_mem_nil

theorem isSound_of_empty (empty : state.site.stores.database.tables.accounts = some .empty) :
    state.AccountsAre Accounts.IsSound := by
  intro accounts present
  cases empty.symm.trans present
  exact Accounts.isSound_empty

namespace IsSettled
variable (settled : state.IsSettled)
include settled

theorem run_isSound (sound : state.AccountsAre Accounts.IsSound) (operations : List Operation) :
    (state.run operations).1.AccountsAre Accounts.IsSound := by
  refine settled.run_accounts ?_ ?_ sound
  · exact fun _ _ _ _ change sound => sound.change change
  · exact fun _ _ => .inr Accounts.isSound_empty

theorem step_isSound (sound : state.AccountsAre Accounts.IsSound) (operation : Operation) :
    (state.step operation).1.AccountsAre Accounts.IsSound :=
  settled.run_isSound sound [operation]

theorem run_reserves (kept : ∀ operation ∈ operations, operation.KeepsAccounts state)
    (reserves : state.AccountsAre (·.Reserves account)) :
    (state.run operations).1.AccountsAre (·.Reserves account) := by
  refine settled.run_accounts ?_ ?_ reserves
  · exact fun _ _ _ _ change reserves => reserves.change change
  · exact fun operation member => .inl (kept operation member)

theorem run_retired {id : Int} (kept : ∀ operation ∈ operations, operation.KeepsAccounts state)
    (retired : state.AccountsAre (·.Retired id)) :
    (state.run operations).1.AccountsAre (·.Retired id) := by
  refine settled.run_accounts ?_ ?_ retired
  · exact fun _ _ _ _ change retired => retired.change change
  · exact fun operation member => .inl (kept operation member)

theorem step_mem {operation : Operation} (kept : operation.KeepsAccounts state)
    (undeleted : operation = .deleteAccount account.id → (state.step operation).2 ≠ .truth true)
    (member : state.AccountsAre (account ∈ ·.rows)) :
    (state.step operation).1.AccountsAre (account ∈ ·.rows) := by
  intro changed present
  by_cases deletes : operation.deleted? = some account.id
  · obtain rfl : operation = .deleteAccount account.id := by
      cases operation with
      | deleteAccount id => exact congrArg _ (Option.some.inj deletes)
      | _ => cases deletes
    exact mem_of_deleteAccount member (undeleted rfl) present
  · rcases settled.step_accounts present with ⟨old, there, change⟩ | ⟨rfl, inMemory, -⟩
    · exact change.mem deletes (member old there)
    · exact absurd kept inMemory

theorem run_mem (spares : state.Spares account.id operations)
    (member : state.AccountsAre (account ∈ ·.rows)) :
    (state.run operations).1.AccountsAre (account ∈ ·.rows) := by
  obtain ⟨kept, undeleted⟩ := spares
  induction operations generalizing state with
  | nil => exact member
  | cons operation rest ih =>
    obtain ⟨keptHere, keptLater⟩ := List.forall_mem_cons.mp kept
    rw [run_cons, List.zip_cons_cons, List.mem_cons, not_or] at undeleted
    obtain ⟨undeletedHere, undeletedLater⟩ := undeleted
    refine ih settled.step ?_ ?_ undeletedLater
    · refine settled.step_mem keptHere ?_ member
      rintro rfl told
      exact undeletedHere (by rw [told])
    · exact fun other later => settled.step_keepsAccounts.mpr (keptLater other later)

end IsSettled

end Server.State

end SessionServer
