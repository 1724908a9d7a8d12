import SessionServer.Proofs.Account.Mailbox
import SessionServer.Proofs.Endpoint.Limits

/-!
Which registrations are accepted. A form passes its check exactly if each of its fields is within its
bounds, and its account is created then unless the address is taken.
-/

namespace SessionServer

namespace Accounts
open Mailbox (SameButForCase SameUpToZero)

/-- Whether an account has an address, as the database compares addresses. -/
def IsTaken (accounts : Accounts) (email : String) : Prop :=
  ∃ account ∈ accounts.rows, SameButForCase account.email email ∨ SameUpToZero account.email email

theorem byEmail?_isSome_iff {accounts : Accounts} {email : String} :
    (accounts.byEmail? email).isSome = true ↔ accounts.IsTaken email := by
  simp only [byEmail?, List.find?_isSome, Mailbox.same_iff, IsTaken]

theorem byEmail?_eq_none_iff {accounts : Accounts} {email : String} :
    accounts.byEmail? email = none ↔ ¬ accounts.IsTaken email := by
  rw [← byEmail?_isSome_iff, Bool.not_eq_true, Option.isSome_eq_false_iff, Option.isNone_iff_eq_none]

end Accounts

namespace Endpoint.Registration
open Text.Decimal (maxSigned)

variable {email displayName password : String} {database : Database} {moment : Moment} {form : Form}
  {accounts : Accounts}

/-- What the fields of a form must be like. The address is measured in octets, the other fields are in
characters, and only the password counts with the blanks around it. -/
structure Form.IsAcceptable (form : Form) : Prop where
  email_short : (Text.trimmed form.email).utf8ByteSize ≤ 254
  email_parts : ∃ before after, (Text.trimmed form.email).toList = before ++ '@' :: after ∧
    '@' ∉ before ∧ before ≠ [] ∧ after ≠ []
  name_length : 1 ≤ (Text.trimmed form.displayName).length ∧ (Text.trimmed form.displayName).length ≤ 64
  password_length : 8 ≤ form.password.length ∧ form.password.length ≤ 128

theorem isAddress_iff :
    isAddress email = true ↔
      ∃ before after, email.toList = before ++ '@' :: after ∧ '@' ∉ before ∧ before ≠ [] ∧
        after ≠ [] := by
  unfold isAddress
  cases cut : Text.splitOnce '@' email.toList with
  | none =>
    refine iff_of_false Bool.false_ne_true ?_
    rintro ⟨before, after, whole, absent, -⟩
    rw [Text.splitOnce_eq_some_iff.mpr ⟨whole, absent⟩] at cut
    cases cut
  | some parts =>
    obtain ⟨before, after⟩ := parts
    simp only [Bool.and_eq_true, Bool.not_eq_true', List.isEmpty_eq_false_iff]
    constructor
    · rintro ⟨left, right⟩
      obtain ⟨whole, absent⟩ := Text.splitOnce_eq_some_iff.mp cut
      exact ⟨before, after, whole, absent, left, right⟩
    · rintro ⟨left, right, whole, absent, nonempty⟩
      rw [Text.splitOnce_eq_some_iff.mpr ⟨whole, absent⟩] at cut
      cases cut
      exact nonempty

theorem checkEmail_eq_ok_iff :
    checkEmail email = .ok () ↔ email.utf8ByteSize ≤ 254 ∧ isAddress email = true := by
  have nonempty (address : isAddress email = true) : email.isEmpty = false := by
    refine Bool.eq_false_iff.mpr fun empty => ?_
    rw [String.isEmpty_iff.mp empty] at address
    exact absurd address (by decide)
  unfold checkEmail maxEmailLength
  cases address : isAddress email with
  | true =>
    rw [nonempty address]
    simp
  | false =>
    refine iff_of_false ?_ (fun both => Bool.false_ne_true both.2)
    grind

theorem checkName_eq_ok_iff :
    checkName displayName = .ok () ↔ 1 ≤ displayName.length ∧ displayName.length ≤ 64 := by
  unfold checkName maxNameLength
  cases empty : displayName.isEmpty with
  | true =>
    rw [String.isEmpty_iff.mp empty]
    simp
  | false =>
    have positive : 1 ≤ displayName.length := by
      refine Nat.pos_of_ne_zero fun zero => ?_
      rw [String.length_eq_zero_iff.mp zero] at empty
      cases empty
    grind

theorem checkPassword_eq_ok_iff :
    checkPassword password = .ok () ↔ 8 ≤ password.length ∧ password.length ≤ 128 := by
  unfold checkPassword minPasswordLength maxPasswordLength
  grind

/-- A form passes its check exactly if it is acceptable. -/
theorem check_eq_ok_iff :
    check (Text.trimmed form.email) (Text.trimmed form.displayName) form.password = .ok () ↔
      form.IsAcceptable := by
  have inOrder : check (Text.trimmed form.email) (Text.trimmed form.displayName) form.password = .ok () ↔
      checkEmail (Text.trimmed form.email) = .ok () ∧ checkName (Text.trimmed form.displayName) = .ok () ∧
        checkPassword form.password = .ok () := by
    unfold check
    cases checkEmail (Text.trimmed form.email) with
    | error => simp
    | ok =>
      cases checkName (Text.trimmed form.displayName) with
      | error => simp
      | ok => simp
  rw [inOrder, checkEmail_eq_ok_iff, checkName_eq_ok_iff, checkPassword_eq_ok_iff, isAddress_iff]
  constructor
  · rintro ⟨⟨short, parts⟩, name, password⟩
    exact ⟨short, parts, name, password⟩
  · rintro ⟨short, parts, name, password⟩
    exact ⟨⟨short, parts⟩, name, password⟩

/-- A form that is not acceptable is a bad request, and nothing is written. -/
theorem register_of_unacceptable (database : Database) (moment : Moment)
    (unacceptable : ¬ form.IsAcceptable) :
    ∃ refusal, register database moment form = (database, .error refusal) ∧ refusal.status = 400 := by
  cases checked : check (Text.trimmed form.email) (Text.trimmed form.displayName) form.password with
  | error refusal =>
    refine ⟨refusal, ?_, status_of_check checked⟩
    simp only [register, checked]
  | ok => exact absurd (check_eq_ok_iff.mp checked) unacceptable

/-- An acceptable form whose address is taken is a conflict, and nothing is written. -/
theorem register_of_taken (moment : Moment) (serves : database.Serves accounts)
    (acceptable : form.IsAcceptable) (room : accounts.lastId < maxSigned)
    (taken : accounts.IsTaken (Text.trimmed form.email)) :
    register database moment form = (database, .error (.conflict "Email is already registered")) := by
  have refused : accounts.create (Text.trimmed form.email) (Text.trimmed form.displayName)
      (Password.hash moment.salt form.password) = .error .emailTaken :=
    Accounts.create_eq_error_iff.mpr (.inr ⟨room, Accounts.byEmail?_isSome_iff.mpr taken, rfl⟩)
  simp only [register, check_eq_ok_iff.mpr acceptable, Database.createAccount_of_refusal serves refused,
    Database.Error.ofRefusal]

/-- Once no id is left, an acceptable form is an internal error whatever its address is, and nothing is
written. -/
theorem register_of_full (moment : Moment) (serves : database.Serves accounts)
    (acceptable : form.IsAcceptable) (full : maxSigned ≤ accounts.lastId) :
    register database moment form = (database, .error .ofDatabase) := by
  have refused : accounts.create (Text.trimmed form.email) (Text.trimmed form.displayName)
      (Password.hash moment.salt form.password) = .error .full :=
    Accounts.create_eq_error_iff.mpr (.inl ⟨full, rfl⟩)
  simp only [register, check_eq_ok_iff.mpr acceptable, Database.createAccount_of_refusal serves refused,
    Database.Error.ofRefusal]

theorem answer_of_refused {site : Site} {request : Http.Request} {slots : Json.Slots String}
    {refusal : Http.Refusal} (read : Http.JsonBody.read record request = .ok slots)
    (refused : register site.stores.database moment (Form.ofSlots slots) =
      (site.stores.database, .error refusal)) :
    answer site moment request = (site, refusal.response) := by
  simp only [answer, read, refused]
  rfl

end Endpoint.Registration

end SessionServer
