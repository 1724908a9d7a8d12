import SessionServer.Endpoint.Router
import SessionServer.Proofs.Token.Issue

/-!
When a login succeeds: exactly if it is granted, its body can be read, and the credentials are those of an
account. The token that is issued then is the account's.
-/

namespace SessionServer.Http

theorem Refusal.le_status (refusal : Refusal) : 400 ≤ refusal.response.status := by
  show 400 ≤ refusal.status
  cases refusal with
  | badRequest => exact Nat.le_refl 400
  | unauthorized => exact Nat.le_succ 400
  | conflict => exact Nat.le_add_right 400 9
  | tooManyRequests => exact Nat.le_add_right 400 29
  | internal => exact Nat.le_add_right 400 100

/-- How a body that does not hold the record is refused. -/
theorem JsonBody.status_of_read {α : Type} {record : Json.Record α} {request : Request}
    {response : Response} (refused : JsonBody.read record request = .error response) :
    response.status ∈ [400, 413, 415, 422] := by
  unfold JsonBody.read at refused
  split at refused
  next =>
    cases refused
    exact (by decide : 415 ∈ [400, 413, 415, 422])
  next =>
    split at refused
    next =>
      cases refused
      exact (by decide : 413 ∈ [400, 413, 415, 422])
    next =>
      split at refused
      next => cases refused
      next body fault _ =>
        cases refused
        unfold JsonBody.refusal
        split
        next => exact (by decide : 422 ∈ [400, 413, 415, 422])
        next => exact (by decide : 400 ∈ [400, 413, 415, 422])

theorem JsonBody.status_ne_of_read {α : Type} {record : Json.Record α} {request : Request}
    {response : Response} (refused : JsonBody.read record request = .error response) :
    response.status ≠ 429 := by
  have all : ∀ status ∈ [400, 413, 415, 422], status ≠ 429 := by decide
  exact all response.status (JsonBody.status_of_read refused)

theorem JsonBody.le_status_of_read {α : Type} {record : Json.Record α} {request : Request}
    {response : Response} (refused : JsonBody.read record request = .error response) :
    400 ≤ response.status := by
  have all : ∀ status ∈ [400, 413, 415, 422], 400 ≤ status := by decide
  exact all response.status (JsonBody.status_of_read refused)

end SessionServer.Http

namespace SessionServer.Endpoint
open Text.Decimal (maxWord)

variable {site : Site} {moment : Moment} {request : Http.Request}

/-- A request that is not for the head alone is answered in full. -/
theorem handle_eq_route {method : String} (asked : request.method = method) (body : method ≠ "HEAD") :
    handle site moment request = route site moment request := by
  rw [← asked] at body
  simp only [handle, if_neg body]

/-- A posted login is answered as such, if the client may ask once more. -/
theorem handle_login (asked : request.resource? = some .session) (posted : request.method = "POST") :
    handle site moment request =
      if (site.logins.grant request.client).2 then
        ({ site with logins := (site.logins.grant request.client).1 }, Login.answer site moment request)
      else (site, tooManyLogins) := by
  rw [handle_eq_route posted (by decide)]
  simp only [route, asked, session, if_pos posted, login]
  rcases site.logins.grant request.client with ⟨limiter, granted⟩
  cases granted with
  | true => rfl
  | false => rfl

namespace Login

variable {policy : Policy} {database : Database} {form : Form} {account : Account} {begun : Begun}

theorem authenticate_eq_ok_iff :
    authenticate database form = .ok account ↔
      form.password.length ≤ Registration.maxPasswordLength ∧
        database.accountByEmail (Text.trimmed form.email) = .ok (some account) ∧
        Password.verify form.password account.passwordHash = true := by
  unfold authenticate
  by_cases long : Registration.maxPasswordLength < form.password.length
  · simp only [if_pos long, reduceCtorEq, Nat.not_le.mpr long, false_and]
  · rw [if_neg long]
    simp only [Nat.not_lt.mp long, true_and]
    rcases database.accountByEmail (Text.trimmed form.email) with error | _ | other
    · simp
    · simp
    · simp only [Except.ok.injEq, Option.some.injEq]
      by_cases verified : Password.verify form.password other.passwordHash = true
      · simp only [if_pos verified, Except.ok.injEq]
        constructor
        · rintro rfl
          exact ⟨rfl, verified⟩
        · exact And.left
      · simp only [if_neg verified, reduceCtorEq, false_iff]
        rintro ⟨rfl, good⟩
        exact verified good

/-- A session begins with an account's credentials, and lasts for the usual time. -/
theorem begin?_eq_ok_iff :
    begin? policy database moment form = .ok begun ↔
      ∃ account now, authenticate database form = .ok account ∧ moment.clock = some now ∧
        begun.user = account.principal ∧
        Token.issue policy.secret account.principal now policy.sessionLifetime moment.tokenId =
          .ok begun.issued := by
  unfold begin?
  cases authenticate database form with
  | error => simp
  | ok account =>
    cases moment.clock with
    | none => simp
    | some now =>
      simp only [Except.ok.injEq, Option.some.injEq, exists_and_left, exists_eq_left']
      cases Token.issue policy.secret account.principal now policy.sessionLifetime moment.tokenId with
      | error => simp
      | ok issued =>
        simp only [Except.ok.injEq]
        constructor
        · rintro rfl
          exact ⟨rfl, rfl⟩
        · rintro ⟨user, rfl⟩
          rw [← user]

/-- No session begins with an account's credentials if it would last past the largest time. -/
theorem begin?_of_late (known : authenticate database form = .ok account) {now : Nat}
    (reads : moment.clock = some now) (late : maxWord < now + policy.sessionLifetime) :
    begin? policy database moment form = .error (.internal "Failed to generate token") := by
  simp only [begin?, known, reads, Token.issue_eq_error_iff.mpr late]

/-- The answer to a login tells of success only if a session has begun. -/
theorem answer_of_status (succeeded : (answer site moment request).status = 200) :
    ∃ slots begun, Http.JsonBody.read record request = .ok slots ∧
      begin? site.policy site.stores.database moment (Form.ofSlots slots) = .ok begun ∧
      answer site moment request = begun.response site.policy.secureCookies := by
  unfold answer at succeeded ⊢
  cases read : Http.JsonBody.read record request with
  | error response =>
    simp only [read] at succeeded
    have refused := Http.JsonBody.le_status_of_read read
    omega
  | ok slots =>
    simp only [read] at succeeded ⊢
    cases begins : begin? site.policy site.stores.database moment (Form.ofSlots slots) with
    | error refusal =>
      simp only [begins] at succeeded
      have refused := refusal.le_status
      omega
    | ok begun => exact ⟨slots, begun, rfl, begins, rfl⟩

end Login

end SessionServer.Endpoint
