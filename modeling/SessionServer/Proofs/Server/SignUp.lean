import SessionServer.Proofs.Endpoint.Acceptance
import SessionServer.Proofs.Server.Registry
import SessionServer.Proofs.Server.SignIn

/-!
What a server answers to a registration. The form and the accounts that are present decide between the
three answers, and an account is added with the first of them only.
-/

namespace SessionServer

/-- Whether nothing is in the way of a registration but its form and the accounts that there are: these can
be asked and written to, and an id is left for one more. -/
structure Database.IsHealthy (database : Database) (accounts : Accounts) : Prop
    extends database.Serves accounts where
  room : accounts.lastId < Text.Decimal.maxSigned

namespace Server.State
open Endpoint.Registration (Form register)
open Mailbox (SameButForCase)

variable {state : State} {moment : Endpoint.Moment} {asked : Http.Request} {accounts : Accounts}
  {slots : Json.Slots String}

section
variable (asks : asked.resource? = some .users) (posted : asked.method = "POST")
  (granted : (state.site.registrations.grant asked.client).2 = true)
  (read : Http.JsonBody.read Endpoint.Registration.record asked = .ok slots)
include asks posted granted read

/-- A registration that is refused is answered so, and leaves the accounts as they were. -/
theorem registration_of_refused {refusal : Http.Refusal}
    (refused : register state.site.stores.database moment (Form.ofSlots slots) =
      (state.site.stores.database, .error refusal)) :
    (state.step (.request moment asked)).2 = .response refusal.response ∧
      (state.step (.request moment asked)).1.site.stores.database.accounts =
        state.site.stores.database.accounts := by
  have answers : Endpoint.Registration.answer
      { state.site with registrations := (state.site.registrations.grant asked.client).1 } moment asked =
        _ := Endpoint.Registration.answer_of_refused read refused
  simp only [step, Endpoint.handle_registration asks posted, if_pos granted, answers, and_self]

/-- With a healthy database, a registration that is read and granted is answered with success exactly if its
form is acceptable and its address is not taken, as a conflict exactly if its address alone stands against
it, and as a bad request in every other case. With success there is a row for the account, with a hash of
the password; otherwise the accounts are what they were. -/
theorem registration_decided (healthy : state.site.stores.database.IsHealthy accounts)
    (salted : moment.salt.length = 16) :
    let form := Form.ofSlots slots
    let email := Text.trimmed form.email
    let displayName := Text.trimmed form.displayName
    let next := (state.step (.request moment asked)).1
    ∃ response, (state.step (.request moment asked)).2 = .response response ∧
      (response.status = 201 ↔ form.IsAcceptable ∧ ¬ accounts.IsTaken email) ∧
      (response.status = 409 ↔ form.IsAcceptable ∧ accounts.IsTaken email) ∧
      (response.status = 400 ↔ ¬ form.IsAcceptable) ∧
      (response.status = 201 →
        ∃ passwordHash, Password.verify form.password passwordHash = true ∧
          next.site.stores.database.accounts =
            .ok { rows := accounts.rows ++
                    [{ id := accounts.lastId + 1, email := email, displayName := displayName
                       passwordHash := passwordHash }]
                  lastId := accounts.lastId + 1 }) ∧
      (response.status ≠ 201 → next.site.stores.database.accounts = .ok accounts) := by
  intro form email displayName next
  by_cases acceptable : form.IsAcceptable
  · by_cases taken : accounts.IsTaken email
    · obtain ⟨answered, kept⟩ := registration_of_refused asks posted granted read
        (Endpoint.Registration.register_of_taken moment healthy.toServes acceptable healthy.room taken)
      refine ⟨_, answered, ?_, ?_, ?_, nofun, fun _ => kept.trans healthy.answered⟩
      · exact iff_of_false (by decide : 409 ≠ 201) fun both => both.2 taken
      · exact iff_of_true rfl ⟨acceptable, taken⟩
      · exact iff_of_false (by decide : 409 ≠ 400) (not_not_intro acceptable)
    · obtain ⟨limiter, stepped⟩ := registration_of_free moment asks posted granted read rfl
        healthy.toServes (Endpoint.Registration.check_eq_ok_iff.mpr acceptable) healthy.room
        (Accounts.byEmail?_eq_none_iff.mpr taken)
      refine ⟨_, congrArg Prod.snd stepped, ?_, ?_, ?_, fun _ => ?_, fun failed => absurd rfl failed⟩
      · exact iff_of_true rfl ⟨acceptable, taken⟩
      · exact iff_of_false (by decide : 201 ≠ 409) fun both => taken both.2
      · exact iff_of_false (by decide : 201 ≠ 400) (not_not_intro acceptable)
      · have verified : Password.verify form.password (Password.hash moment.salt form.password) = true :=
          Password.verify_hash (by rw [salted]; decide) (by rw [salted]; decide) form.password
        refine ⟨_, verified, ?_⟩
        show (state.step (.request moment asked)).1.site.stores.database.accounts = _
        rw [stepped]
        exact (healthy.setAccounts _).answered
  · obtain ⟨refusal, refused, status⟩ := Endpoint.Registration.register_of_unacceptable
      state.site.stores.database moment acceptable
    obtain ⟨answered, kept⟩ := registration_of_refused asks posted granted read refused
    have status : refusal.response.status = 400 := status
    refine ⟨_, answered, ?_, ?_, iff_of_true status acceptable, ?_, fun _ => kept.trans healthy.answered⟩
    · exact iff_of_false (by rw [status]; decide) fun both => acceptable both.1
    · exact iff_of_false (by rw [status]; decide) fun both => acceptable both.1
    · intro created
      cases status.symm.trans created

end

/-- With a server in memory, the form is accepted with the blanks around its address and its name, which
are left out of the row. -/
theorem registration_decided_inMemory :
    ∃ response, (inMemory.step (.request firstMoment registrationRequest)).2 = .response response ∧
      response.status = 201 ∧
      ∃ passwordHash, Password.verify "correct horse" passwordHash = true ∧
        registered.site.stores.database.accounts =
          .ok { rows := [{ id := 1, email := "Ada@Example.org", displayName := "Ada"
                           passwordHash := passwordHash }]
                lastId := 1 } := by
  obtain ⟨slots, read, filled⟩ := Endpoint.Registration.read_post signUp (by decide +kernel)
  have asks : registrationRequest.resource? = some .users := by decide
  have granted : (inMemory.site.registrations.grant registrationRequest.client).2 = true := rfl
  have salted : firstMoment.salt.length = 16 := rfl
  obtain ⟨response, answered, created, -, -, row, -⟩ :=
    registration_decided asks rfl granted read ⟨serves_inMemory, by decide⟩ salted
  rw [filled] at created row
  have email : Text.trimmed signUp.email = "Ada@Example.org" := by decide +kernel
  have displayName : Text.trimmed signUp.displayName = "Ada" := by decide +kernel
  have acceptable : signUp.IsAcceptable := by
    refine Endpoint.Registration.check_eq_ok_iff.mp (Database.eq_ok_of_toOption ?_)
    decide +kernel
  have free : ¬ Accounts.empty.IsTaken (Text.trimmed signUp.email) :=
    Accounts.byEmail?_eq_none_iff.mp rfl
  have succeeded := created.mpr ⟨acceptable, free⟩
  rw [email, displayName] at row
  exact ⟨response, answered, succeeded, row succeeded⟩

/-- An account whose address has a zero character. -/
def zeroedAccount : Account :=
  { id := 1, email := "a\x00b@example.org", displayName := "Ada", passwordHash := "hash" }

/-- A server in memory that has this account. -/
def zeroed : State :=
  (inMemory.step (.createAccount zeroedAccount.email zeroedAccount.displayName
    zeroedAccount.passwordHash)).1

/-- What is filled in for an address that differs from it behind the zero character. -/
def zeroedSignUp : Form :=
  { email := "a\x00c@example.org", displayName := "Eve", password := "correct horse" }

/-- An address counts as taken by one that is another in any case, as nothing is compared behind a zero
character. -/
theorem registration_refused_behind_zero :
    ∃ accounts response, zeroed.site.stores.database.accounts = .ok accounts ∧
      zeroedSignUp.IsAcceptable ∧
      (∀ account ∈ accounts.rows, ¬ SameButForCase account.email (Text.trimmed zeroedSignUp.email)) ∧
      (zeroed.step (.request firstMoment (.post "/api/users" zeroedSignUp.document))).2 =
        .response response ∧
      response.status = 409 := by
  have serves : zeroed.site.stores.database.Serves { rows := [zeroedAccount], lastId := 1 } :=
    ⟨Database.eq_ok_of_toOption (by decide +kernel), rfl⟩
  obtain ⟨slots, read, filled⟩ := Endpoint.Registration.read_post zeroedSignUp (by decide +kernel)
  have acceptable : zeroedSignUp.IsAcceptable := by
    refine Endpoint.Registration.check_eq_ok_iff.mp (Database.eq_ok_of_toOption ?_)
    decide +kernel
  have taken : Accounts.IsTaken { rows := [zeroedAccount], lastId := 1 }
      (Text.trimmed zeroedSignUp.email) :=
    Accounts.byEmail?_isSome_iff.mp (by decide +kernel)
  have other : ¬ SameButForCase zeroedAccount.email (Text.trimmed zeroedSignUp.email) := by
    unfold SameButForCase
    decide +kernel
  have asks : (Http.Request.post "/api/users" zeroedSignUp.document).resource? = some .users := by decide
  have granted : (zeroed.site.registrations.grant
      (Http.Request.post "/api/users" zeroedSignUp.document).client).2 = true := rfl
  obtain ⟨answered, -⟩ := registration_of_refused asks rfl granted read
    (Endpoint.Registration.register_of_taken firstMoment serves (filled ▸ acceptable) (by decide)
      (filled ▸ taken))
  refine ⟨_, _, serves.answered, acceptable, ?_, answered, rfl⟩
  exact List.forall_mem_singleton.mpr other

end Server.State

end SessionServer
