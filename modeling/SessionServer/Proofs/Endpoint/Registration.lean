import SessionServer.Proofs.Endpoint.Login
import SessionServer.Proofs.Session.Steps

/-!
When a registration succeeds, and what it leaves: a row for the new account, with the hash of its password.
-/

namespace SessionServer

theorem Database.createAccount_eq_ok_iff {database changed : Database} {id : Int}
    {email displayName passwordHash : String} :
    database.createAccount email displayName passwordHash = (changed, .ok id) ↔
      ∃ accounts table, database.Serves accounts ∧
        accounts.create email displayName passwordHash = .ok (table, id) ∧
        changed = database.setAccounts table := by
  constructor
  · intro done
    rcases database.createAccount_cases email displayName passwordHash with
      ⟨fault, refused⟩ | ⟨accounts, table, other, serves, created, written⟩
    · cases refused.symm.trans done
    · cases written.symm.trans done
      exact ⟨accounts, table, serves, created, rfl⟩
  · rintro ⟨accounts, table, serves, created, rfl⟩
    simp only [createAccount, serves.answered, created, refusal?_of_writable serves.writable, conclude]

namespace Endpoint

variable {site : Site} {moment : Moment} {request : Http.Request}

/-- A posted registration is answered as such, if the client may ask once more. -/
theorem handle_registration (asked : request.resource? = some .users)
    (posted : request.method = "POST") :
    handle site moment request =
      if (site.registrations.grant request.client).2 then
        Registration.answer
          { site with registrations := (site.registrations.grant request.client).1 } moment request
      else (site, tooManyRegistrations) := by
  rw [handle_eq_route posted (by decide)]
  simp only [route, asked, users, if_pos posted]
  rcases site.registrations.grant request.client with ⟨limiter, granted⟩
  cases granted with
  | true => simp only [if_true]
  | false => rfl

namespace Registration

/-- The account that a registration is for: its address and its name without the blanks around them, and
the hash of its password. -/
def Form.account (form : Form) (salt : Bytes) (id : Int) : Account :=
  { id := id, email := Text.trimmed form.email, displayName := Text.trimmed form.displayName
    passwordHash := Password.hash salt form.password }

variable {database changed : Database} {form : Form} {principal : Principal} {email displayName : String}

/-- Registering succeeds exactly if the form passes its check and the account can be created. -/
theorem register_eq_ok_iff :
    register database moment form = (changed, .ok principal) ↔
      check (Text.trimmed form.email) (Text.trimmed form.displayName) form.password = .ok () ∧
        ∃ id, database.createAccount (Text.trimmed form.email) (Text.trimmed form.displayName)
            (Password.hash moment.salt form.password) = (changed, .ok id) ∧
          principal = (form.account moment.salt id).principal := by
  unfold register
  simp only
  cases check (Text.trimmed form.email) (Text.trimmed form.displayName) form.password with
  | error => simp
  | ok =>
    simp only [true_and]
    rcases database.createAccount (Text.trimmed form.email) (Text.trimmed form.displayName)
        (Password.hash moment.salt form.password) with ⟨written, error | id⟩
    · cases error <;> simp
    · simp only [Prod.mk.injEq, Except.ok.injEq]
      constructor
      · rintro ⟨rfl, rfl⟩
        exact ⟨id, ⟨rfl, rfl⟩, rfl⟩
      · rintro ⟨given, ⟨rfl, rfl⟩, rfl⟩
        exact ⟨rfl, rfl⟩

/-- An account is registered under the next id, if its form passes the check, an id is left and no account
has its address. -/
theorem register_of_free {accounts : Accounts} (moment : Moment) (serves : database.Serves accounts)
    (passed : check (Text.trimmed form.email) (Text.trimmed form.displayName) form.password = .ok ())
    (room : accounts.lastId < Text.Decimal.maxSigned)
    (free : accounts.byEmail? (Text.trimmed form.email) = none) :
    let account := form.account moment.salt (accounts.lastId + 1)
    register database moment form =
      (database.setAccounts { rows := accounts.rows ++ [account], lastId := accounts.lastId + 1 },
        .ok account.principal) := by
  have added : accounts.create (Text.trimmed form.email) (Text.trimmed form.displayName)
      (Password.hash moment.salt form.password) = .ok (_, accounts.lastId + 1) :=
    Accounts.create_eq_ok_iff.mpr ⟨room, free, rfl, rfl⟩
  exact register_eq_ok_iff.mpr ⟨passed, accounts.lastId + 1,
    Database.createAccount_eq_ok_iff.mpr ⟨accounts, _, serves, added, rfl⟩, rfl⟩

/-- A password that passes the check at a registration is not too long for a login. -/
theorem length_le_of_check {password : String} (passed : check email displayName password = .ok ()) :
    password.length ≤ maxPasswordLength := by
  unfold check at passed
  split at passed
  next => cases passed
  next =>
    split at passed
    next => cases passed
    next =>
      unfold checkPassword at passed
      split at passed
      next => cases passed
      next bounds => exact Nat.not_lt.mp fun long => bounds (.inr long)

/-- The answer to a registration tells of success only if an account was registered. -/
theorem answer_of_status (succeeded : (answer site moment request).2.status = 201) :
    ∃ slots database principal, Http.JsonBody.read record request = .ok slots ∧
      register site.stores.database moment (Form.ofSlots slots) = (database, .ok principal) ∧
      answer site moment request =
        (site.withDatabase database, Http.Response.json 201 principal.document) := by
  unfold answer at succeeded ⊢
  cases read : Http.JsonBody.read record request with
  | error response =>
    simp only [read] at succeeded
    have refused := Http.JsonBody.le_status_of_read read
    omega
  | ok slots =>
    simp only [read] at succeeded ⊢
    rcases registers : register site.stores.database moment (Form.ofSlots slots) with
      ⟨database, refusal | principal⟩
    · simp only [registers] at succeeded
      have refused := refusal.le_status
      omega
    · exact ⟨slots, database, principal, rfl, registers, rfl⟩

theorem answer_of_register {slots : Json.Slots String}
    (read : Http.JsonBody.read record request = .ok slots)
    (registers : register site.stores.database moment (Form.ofSlots slots) = (database, .ok principal)) :
    answer site moment request =
      (site.withDatabase database, Http.Response.json 201 principal.document) := by
  simp only [answer, read, registers]

end Registration

/-- A posted registration that succeeds has registered an account, and changes nothing else but how often
its client may ask. -/
theorem handle_of_registered (asked : request.resource? = some .users) (posted : request.method = "POST")
    (succeeded : (handle site moment request).2.status = 201) :
    ∃ slots limiter database principal,
      Http.JsonBody.read Registration.record request = .ok slots ∧
      Registration.register site.stores.database moment (Registration.Form.ofSlots slots) =
        (database, .ok principal) ∧
      handle site moment request =
        ({ site with registrations := limiter }.withDatabase database,
          Http.Response.json 201 principal.document) := by
  rw [handle_registration asked posted] at succeeded ⊢
  cases granted : (site.registrations.grant request.client).2 with
  | false =>
    rw [granted, if_neg Bool.false_ne_true] at succeeded
    cases succeeded
  | true =>
    rw [granted, if_pos rfl] at succeeded
    rw [if_pos rfl]
    obtain ⟨slots, database, principal, read, registers, same⟩ :=
      Registration.answer_of_status succeeded
    exact ⟨slots, _, database, principal, read, registers, same⟩

end Endpoint

end SessionServer
