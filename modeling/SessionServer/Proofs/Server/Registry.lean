import SessionServer.Proofs.Endpoint.Effects
import SessionServer.Proofs.Server.Accounts
import SessionServer.Proofs.Server.Restart

/-!
The accounts of a server as a registry of who is present. Every run of operations on accounts has the
outcomes that the registry allows, where addresses match as the database compares them: in any case of
ASCII letters, as long as it tells other addresses apart.
-/

namespace SessionServer

namespace Server
open Mailbox (SameButForCase)
open Text.Decimal (maxSigned)

/-- Whether an operation creates, deletes or looks up an account. -/
def Operation.IsOnAccounts : Operation → Prop
  | .createAccount _ _ _ | .accountById _ | .accountByEmail _ | .accountPrincipal _
  | .deleteAccount _ => True
  | _ => False

/-- The address that an operation names. -/
def Operation.address? : Operation → Option String
  | .createAccount email _ _ | .accountByEmail email => some email
  | _ => none

/-- Who is present, by id, and the ids that were ever given. -/
structure Registry where
  present : Int → Option Account
  given : List Int

namespace Registry

def empty : Registry := { present := fun _ => none, given := [] }

def put (registry : Registry) (account : Account) : Registry where
  present := Function.update registry.present account.id (some account)
  given := account.id :: registry.given

def remove (registry : Registry) (id : Int) : Registry :=
  { registry with present := Function.update registry.present id none }

/-- Whether nobody is present whose address matches. -/
def IsFree (Matches : String → String → Prop) (registry : Registry) (email : String) : Prop :=
  ∀ id account, registry.present id = some account → ¬ Matches account.email email

/-- The outcomes that an operation on accounts may have, and the registry afterwards. Ids are signed words, so
nobody can join any more once the last of them was given. -/
inductive Allows (Matches : String → String → Prop) (registry : Registry) :
    Operation → Outcome → Registry → Prop where
  | created {email displayName passwordHash : String} {id : Int}
      (free : registry.IsFree Matches email) (fresh : ∀ earlier ∈ registry.given, earlier < id)
      (fits : id ≤ maxSigned) :
      Allows Matches registry (.createAccount email displayName passwordHash) (.id id)
        (registry.put
          { id := id, email := email, displayName := displayName, passwordHash := passwordHash })
  | taken {email displayName passwordHash : String} {id : Int} {account : Account}
      (there : registry.present id = some account) (same : Matches account.email email)
      (room : (maxSigned : Int) ∉ registry.given) :
      Allows Matches registry (.createAccount email displayName passwordHash)
        (.databaseError .emailTaken) registry
  | full {email displayName passwordHash : String} (last : (maxSigned : Int) ∈ registry.given) :
      Allows Matches registry (.createAccount email displayName passwordHash) (.databaseError .full)
        registry
  | found {email : String} {id : Int} {account : Account}
      (there : registry.present id = some account) (same : Matches account.email email) :
      Allows Matches registry (.accountByEmail email) (.account (some account)) registry
  | missing {email : String} (free : registry.IsFree Matches email) :
      Allows Matches registry (.accountByEmail email) (.account none) registry
  | shown (id : Int) :
      Allows Matches registry (.accountById id) (.account (registry.present id)) registry
  | known (id : Int) :
      Allows Matches registry (.accountPrincipal id)
        (.principal ((registry.present id).map Account.principal)) registry
  | deleted (id : Int) :
      Allows Matches registry (.deleteAccount id) (.truth (registry.present id).isSome)
        (registry.remove id)

/-- The outcomes that operations may have one after another, and the registry after them. -/
inductive Runs (Matches : String → String → Prop) :
    Registry → List Operation → List Outcome → Registry → Prop where
  | nil (registry : Registry) : Runs Matches registry [] [] registry
  | cons {first next last : Registry} {operation : Operation} {operations : List Operation}
      {outcome : Outcome} {outcomes : List Outcome} (allows : first.Allows Matches operation outcome next)
      (later : Runs Matches next operations outcomes last) :
      Runs Matches first (operation :: operations) (outcome :: outcomes) last

/-- Whether the database compares these addresses by a relation. -/
def Compares (addresses : List String) (Matches : String → String → Prop) : Prop :=
  ∀ first ∈ addresses, ∀ second ∈ addresses, Mailbox.same first second = true ↔ Matches first second

/-- Whether a table holds just the accounts that are present, each under one of the addresses. -/
structure Describes (registry : Registry) (addresses : List String) (accounts : Accounts) : Prop where
  sound : accounts.IsSound
  present : registry.present = accounts.byId?
  given : ∀ id ∈ registry.given, id ≤ accounts.lastId
  last : accounts.lastId = 0 ∨ accounts.lastId ∈ registry.given
  addressed : ∀ account ∈ accounts.rows, account.email ∈ addresses

theorem describes_empty (addresses : List String) : Registry.empty.Describes addresses .empty where
  sound := Accounts.isSound_empty
  present := rfl
  given _ member := absurd member List.not_mem_nil
  last := .inl rfl
  addressed _ member := absurd member List.not_mem_nil

namespace Describes

variable {registry : Registry} {addresses : List String} {accounts changed : Accounts}
  {email displayName passwordHash : String} {id : Int} {account : Account}
  {Matches : String → String → Prop} (describes : registry.Describes addresses accounts)
include describes

theorem put (named : email ∈ addresses)
    (created : accounts.create email displayName passwordHash = .ok (changed, id)) :
    (registry.put { id := id, email := email, displayName := displayName
                    passwordHash := passwordHash }).Describes addresses changed := by
  have change : Accounts.Change none accounts changed := .create created
  have found := describes.sound.byId?_create created
  have sound := describes.sound.change change
  obtain ⟨-, -, rfl, rfl⟩ := Accounts.create_eq_ok_iff.mp created
  refine ⟨sound, ?_, ?_, .inr List.mem_cons_self, ?_⟩
  · rw [found, Registry.put, describes.present]
  · intro other member
    rcases List.mem_cons.mp member with rfl | earlier
    · exact Int.le_refl _
    · exact Int.le_add_one (describes.given other earlier)
  · intro other member
    rcases List.mem_append.mp member with before | new
    · exact describes.addressed other before
    · rw [List.mem_singleton.mp new]
      exact named

theorem remove (id : Int) : (registry.remove id).Describes addresses (accounts.delete id).1 := by
  have change : Accounts.Change (some id) accounts (accounts.delete id).1 := .delete rfl
  refine ⟨describes.sound.change change, ?_, describes.given, describes.last, ?_⟩
  · rw [Accounts.byId?_delete, Registry.remove, describes.present]
  · intro account member
    exact describes.addressed account (List.mem_filter.mp member).1

theorem present_of_byEmail? (taken : accounts.byEmail? email = some account) :
    registry.present account.id = some account := by
  rw [describes.present]
  exact describes.sound.byId? (Accounts.byEmail?_eq_some taken).1

theorem matches_of_byEmail? (compares : Compares addresses Matches) (named : email ∈ addresses)
    (taken : accounts.byEmail? email = some account) : Matches account.email email := by
  obtain ⟨member, same⟩ := Accounts.byEmail?_eq_some taken
  exact (compares account.email (describes.addressed account member) email named).mp same

theorem isFree_of_byEmail? (compares : Compares addresses Matches) (named : email ∈ addresses)
    (free : accounts.byEmail? email = none) : registry.IsFree Matches email := by
  intro id account there same
  rw [describes.present] at there
  have member := (Accounts.byId?_eq_some there).1
  exact List.find?_eq_none.mp free account member
    ((compares account.email (describes.addressed account member) email named).mpr same)

/-- No id is left exactly if the last one was given. -/
theorem full_iff : maxSigned ≤ accounts.lastId ↔ (maxSigned : Int) ∈ registry.given := by
  constructor
  · intro full
    have top : accounts.lastId = maxSigned := Int.le_antisymm describes.sound.lastId_signed.2 full
    rw [← top]
    refine describes.last.resolve_left ?_
    rw [top]
    decide
  · exact describes.given _

end Describes

end Registry

namespace State
open Registry (Compares)

variable {state : State} {registry : Registry} {addresses : List String} {accounts : Accounts}
  {operation : Operation} {operations : List Operation}

section Answers
variable {email displayName passwordHash : String} {changed : Accounts} {id : Int}
  (serves : state.site.stores.database.Serves accounts)
include serves

theorem step_of_created (created : accounts.create email displayName passwordHash = .ok (changed, id)) :
    state.step (.createAccount email displayName passwordHash) =
      (state.withDatabase (state.site.stores.database.setAccounts changed), .id id) := by
  show Operation.onDatabase state .id
    (state.site.stores.database.createAccount email displayName passwordHash) = _
  rw [Database.createAccount_eq_ok_iff.mpr ⟨accounts, changed, serves, created, rfl⟩]
  rfl

theorem step_of_refusal {refusal : Accounts.Refusal}
    (refused : accounts.create email displayName passwordHash = .error refusal) :
    state.step (.createAccount email displayName passwordHash) =
      (state, .databaseError (.ofRefusal refusal)) := by
  show Operation.onDatabase state .id
    (state.site.stores.database.createAccount email displayName passwordHash) = _
  rw [Database.createAccount_of_refusal serves refused]
  rfl

theorem step_deleteAccount (id : Int) :
    state.step (.deleteAccount id) =
      (state.withDatabase (state.site.stores.database.setAccounts (accounts.delete id).1),
        .truth (accounts.byId? id).isSome) := by
  show Operation.onDatabase state .truth (state.site.stores.database.deleteAccount id) = _
  rw [Database.deleteAccount_of_serves serves]
  rfl

theorem step_accountById (id : Int) :
    state.step (.accountById id) = (state, .account (accounts.byId? id)) := by
  show (state, Operation.outcome _ _ (state.site.stores.database.accountById id)) = _
  simp only [Database.accountById, serves.answered]
  rfl

theorem step_accountByEmail (email : String) :
    state.step (.accountByEmail email) = (state, .account (accounts.byEmail? email)) := by
  show (state, Operation.outcome _ _ (state.site.stores.database.accountByEmail email)) = _
  simp only [Database.accountByEmail, serves.answered]
  rfl

theorem step_accountPrincipal (id : Int) :
    state.step (.accountPrincipal id) =
      (state, .principal ((accounts.byId? id).map Account.principal)) := by
  show (state, Operation.outcome _ _ (state.site.stores.accountPrincipal id)) = _
  simp only [Session.Stores.accountPrincipal, Database.accountById, serves.answered]
  rfl

end Answers

/-- An operation on accounts has an outcome that the registry allows. -/
theorem step_describes (serves : state.site.stores.database.Serves accounts)
    (describes : registry.Describes addresses accounts) (only : operation.IsOnAccounts)
    (named : ∀ address, operation.address? = some address → address ∈ addresses) :
    ∃ next changed,
      (∀ Matches, Compares addresses Matches →
        registry.Allows Matches operation (state.step operation).2 next) ∧
      (state.step operation).1.site.stores.database.Serves changed ∧
      next.Describes addresses changed := by
  -- The next registry is chosen before the relation, so that one run serves every relation.
  cases operation with
  | createAccount email displayName passwordHash =>
    cases created : accounts.create email displayName passwordHash with
    | error refusal =>
      rw [step_of_refusal serves created]
      refine ⟨registry, accounts, ?_, serves, describes⟩
      intro Matches compares
      rcases Accounts.create_eq_error_iff.mp created with ⟨full, rfl⟩ | ⟨room, found, rfl⟩
      · exact .full (describes.full_iff.mp full)
      · obtain ⟨account, taken⟩ := Option.isSome_iff_exists.mp found
        refine .taken (describes.present_of_byEmail? taken)
          (describes.matches_of_byEmail? compares (named email rfl) taken) ?_
        rw [← describes.full_iff]
        exact Int.not_le.mpr room
    | ok given =>
      rcases given with ⟨changed, id⟩
      rw [step_of_created serves created]
      refine ⟨_, changed, ?_, serves.setAccounts changed,
        describes.put (named email rfl) created⟩
      intro Matches compares
      obtain ⟨room, free, rfl, -⟩ := Accounts.create_eq_ok_iff.mp created
      refine .created (describes.isFree_of_byEmail? compares (named email rfl) free) ?_ room
      intro earlier member
      exact Int.lt_add_one_of_le (describes.given earlier member)
  | deleteAccount id =>
    rw [step_deleteAccount serves, ← describes.present]
    exact ⟨registry.remove id, _, fun _ _ => .deleted id, serves.setAccounts _,
      describes.remove id⟩
  | accountById id =>
    rw [step_accountById serves, ← describes.present]
    exact ⟨registry, accounts, fun _ _ => .shown id, serves, describes⟩
  | accountByEmail email =>
    rw [step_accountByEmail serves]
    refine ⟨registry, accounts, ?_, serves, describes⟩
    intro Matches compares
    cases looked : accounts.byEmail? email with
    | none => exact .missing (describes.isFree_of_byEmail? compares (named email rfl) looked)
    | some account =>
      exact .found (describes.present_of_byEmail? looked)
        (describes.matches_of_byEmail? compares (named email rfl) looked)
  | accountPrincipal id =>
    rw [step_accountPrincipal serves, ← describes.present]
    exact ⟨registry, accounts, fun _ _ => .known id, serves, describes⟩
  | _ => exact only.elim

/-- A run of operations on accounts is one of the registry. -/
theorem run_describes (serves : state.site.stores.database.Serves accounts)
    (describes : registry.Describes addresses accounts)
    (only : ∀ operation ∈ operations, operation.IsOnAccounts)
    (named : ∀ address ∈ operations.filterMap Operation.address?, address ∈ addresses) :
    ∃ last changed,
      (∀ Matches, Compares addresses Matches →
        registry.Runs Matches operations (state.run operations).2 last) ∧
      (state.run operations).1.site.stores.database.Serves changed ∧
      last.Describes addresses changed := by
  induction operations generalizing state registry accounts with
  | nil => exact ⟨registry, accounts, fun _ _ => .nil registry, serves, describes⟩
  | cons operation rest ih =>
    obtain ⟨onAccounts, later⟩ := List.forall_mem_cons.mp only
    have namedHere (address : String) (names : operation.address? = some address) :
        address ∈ addresses :=
      named address (List.mem_filterMap.mpr ⟨operation, List.mem_cons_self, names⟩)
    have namedLater : ∀ address ∈ rest.filterMap Operation.address?, address ∈ addresses := by
      intro address member
      obtain ⟨other, inRest, names⟩ := List.mem_filterMap.mp member
      exact named address (List.mem_filterMap.mpr ⟨other, List.mem_cons_of_mem _ inRest, names⟩)
    obtain ⟨next, changed, allows, written, after⟩ :=
      step_describes serves describes onAccounts namedHere
    obtain ⟨last, final, runs, kept, described⟩ := ih written after later namedLater
    rw [run_cons]
    exact ⟨last, final, fun Matches compares => .cons (allows Matches compares) (runs Matches compares),
      kept, described⟩

theorem serves_of_new {setup : Setup} {files remaining : Database.Files}
    (started : start setup files = (remaining, .ok state))
    (new : state.site.stores.database.tables = .new)
    (writable : state.site.stores.database.writeFault = none) :
    state.site.stores.database.Serves .empty := by
  refine ⟨Database.accounts_eq_ok_iff.mpr ⟨(isWhole_of_start started).isOpen, ?_⟩, writable⟩
  rw [new]
  rfl

/-- From a new database on that can be written to, a server does with its accounts what a registry of them
does. An account is created under an id above all that were given before, unless somebody present has its
address in any case or no id is left; it is found by its id with what it was created with, and by its
address in any case; and only the account that is named is deleted. No two rows have addresses that differ
in their case only, and an attempt that fails leaves everything as it was. Addresses match as the database
compares them, which is in any case wherever it takes no others for the same. -/
theorem accounts_form_registry {setup : Setup} {files remaining : Database.Files}
    (started : start setup files = (remaining, .ok state))
    (new : state.site.stores.database.tables = .new)
    (writable : state.site.stores.database.writeFault = none)
    (only : ∀ operation ∈ operations, operation.IsOnAccounts) :
    let reached := (state.run operations).1
    let addresses := operations.filterMap Operation.address?
    ∃ registry accounts, reached.site.stores.database.accounts = .ok accounts ∧
      (∀ account, account ∈ accounts.rows ↔ registry.present account.id = some account) ∧
      (accounts.rows.Pairwise fun first second => ¬ SameButForCase first.email second.email) ∧
      Registry.empty.Runs (Mailbox.same · · = true) operations (state.run operations).2 registry ∧
      (Compares addresses SameButForCase →
        Registry.empty.Runs SameButForCase operations (state.run operations).2 registry) ∧
      ∀ email displayName passwordHash error,
        (reached.step (.createAccount email displayName passwordHash)).2 = .databaseError error →
        (reached.step (.createAccount email displayName passwordHash)).1 = reached := by
  intro reached addresses
  have named : ∀ address ∈ addresses, address ∈ addresses := fun _ member => member
  obtain ⟨registry, accounts, runs, serves, describes⟩ :=
    run_describes (serves_of_new started new writable) (Registry.describes_empty addresses) only named
  refine ⟨registry, accounts, serves.answered, ?_, ?_, ?_, runs SameButForCase, ?_⟩
  · intro account
    rw [describes.present]
    exact ⟨describes.sound.byId?, fun found => (Accounts.byId?_eq_some found).1⟩
  · refine describes.sound.emails_distinct.imp ?_
    intro first second apart alike
    rw [Mailbox.same_of_lowerAscii alike] at apart
    cases apart
  · exact runs _ fun _ _ _ _ => Iff.rfl
  · intro email displayName passwordHash error failed
    cases created : accounts.create email displayName passwordHash with
    | error => rw [step_of_refusal serves created]
    | ok given =>
      rw [step_of_created serves created] at failed
      cases failed

/-- An account is created, cannot be created again, is deleted, and is created again in another case. -/
def comings : List Operation :=
  [.createAccount "ada@example.org" "Ada" "one", .createAccount "Ada@Example.org" "Eve" "two",
    .deleteAccount 1, .createAccount "ADA@example.org" "Eve" "two", .accountByEmail "ada@EXAMPLE.org"]

/-- The address can be taken again once its account is deleted, and then has the next id. -/
theorem accounts_form_registry_inMemory :
    (∀ operation ∈ comings, operation.IsOnAccounts) ∧
      Compares (comings.filterMap Operation.address?) SameButForCase ∧
      ∃ registry,
        Registry.empty.Runs SameButForCase comings
          [.id 1, .databaseError .emailTaken, .truth true, .id 2,
            .account (some { id := 2, email := "ADA@example.org", displayName := "Eve"
                             passwordHash := "two" })] registry := by
  have only : ∀ operation ∈ comings, operation.IsOnAccounts := by
    simp [comings, Operation.IsOnAccounts]
  have whole : ∀ address ∈ comings.filterMap Operation.address?, '\x00' ∉ address.toList := by decide
  have compares : Compares (comings.filterMap Operation.address?) SameButForCase := by
    intro first member second otherMember
    exact ⟨Mailbox.lowerAscii_of_same (whole first member) (whole second otherMember),
      Mailbox.same_of_lowerAscii⟩
  have outcomes : (inMemory.run comings).2 =
      [.id 1, .databaseError .emailTaken, .truth true, .id 2,
        .account (some { id := 2, email := "ADA@example.org", displayName := "Eve"
                         passwordHash := "two" })] := by decide +kernel
  obtain ⟨registry, -, -, -, -, -, runs, -⟩ := accounts_form_registry start_memorySetup rfl rfl only
  exact ⟨only, compares, registry, outcomes ▸ runs compares⟩

end State

end Server

end SessionServer
