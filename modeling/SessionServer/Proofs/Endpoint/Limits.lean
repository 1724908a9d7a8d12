import SessionServer.Proofs.Endpoint.Registration
import SessionServer.Proofs.Endpoint.Steps

/-!
Which requests are refused for being too many. Only a posted login and a request for the accounts can be;
each is asked of a limiter of its own, and no endpoint gives this answer for another reason.
-/

namespace SessionServer

namespace Http

/-- Who posts a login. -/
def Request.login? (request : Request) : Option Limit.Client :=
  if request.resource? = some .session ∧ request.method = "POST" then some request.client else none

/-- Who asks for the accounts, by whatever method. -/
def Request.registration? (request : Request) : Option Limit.Client :=
  if request.resource? = some .users then some request.client else none

end Http

namespace Endpoint

variable {site : Site} {moment : Moment} {request : Http.Request}

namespace Registration

/-- A form that does not pass its check is a bad request. -/
theorem status_of_check {email displayName password : String} {refusal : Http.Refusal}
    (failed : check email displayName password = .error refusal) : refusal.status = 400 := by
  unfold check checkEmail checkName checkPassword at failed
  split at failed
  next checked =>
    cases failed
    grind [Http.Refusal.status]
  next =>
    split at failed
    next checked =>
      cases failed
      grind [Http.Refusal.status]
    next => grind [Http.Refusal.status]

theorem status_of_register {database changed : Database} {form : Form} {refusal : Http.Refusal}
    (refused : register database moment form = (changed, .error refusal)) : refusal.status ≠ 429 := by
  unfold register at refused
  simp only at refused
  split at refused
  next failed =>
    cases refused
    rw [status_of_check failed]
    decide
  next =>
    split at refused
    next => cases refused
    next =>
      cases refused
      exact (by decide : 409 ≠ 429)
    next =>
      cases refused
      exact (by decide : 500 ≠ 429)

theorem status_answer : (answer site moment request).2.status ≠ 429 := by
  unfold answer
  cases read : Http.JsonBody.read record request with
  | error response => exact Http.JsonBody.status_ne_of_read read
  | ok slots =>
    simp only
    rcases registers : register site.stores.database moment (Form.ofSlots slots) with
      ⟨database, refusal | principal⟩
    · exact status_of_register registers
    · exact (by decide : 201 ≠ 429)

end Registration

namespace Login

theorem begin?_refused {policy : Policy} {database : Database} {form : Form} {refusal : Http.Refusal}
    (refused : begin? policy database moment form = .error refusal) :
    refusal ∈ [invalidCredentials, .ofDatabase, .internal "Failed to read clock",
      .internal "Failed to generate token"] := by
  unfold begin? authenticate at refused
  grind

theorem status_answer : (answer site moment request).status ≠ 429 := by
  unfold answer
  cases read : Http.JsonBody.read record request with
  | error response => exact Http.JsonBody.status_ne_of_read read
  | ok slots =>
    simp only
    cases begins : begin? site.policy site.stores.database moment (Form.ofSlots slots) with
    | error refusal =>
      have all : ∀ refusal ∈ [invalidCredentials, .ofDatabase, .internal "Failed to read clock",
          .internal "Failed to generate token"], refusal.status ≠ 429 := by decide
      exact all refusal (begin?_refused begins)
    | ok begun => exact (by decide : 200 ≠ 429)

end Login

namespace Session
open SessionServer.Session (Authenticated)

theorem status_ofSession (error : SessionServer.Session.Error) (secureCookies : Bool) :
    (Http.Refusal.ofSession error secureCookies).status ≠ 429 := by
  unfold Http.Refusal.ofSession
  split
  next => exact (by decide : 503 ≠ 429)
  next => exact (by decide : 401 ≠ 429)

theorem status_authenticated {respond : Authenticated → Http.Response}
    (responds : ∀ session, (respond session).status ≠ 429) :
    (authenticated site moment request respond).2.status ≠ 429 := by
  unfold authenticated
  split
  next session _ => exact responds session
  next error _ => exact status_ofSession error site.policy.secureCookies

theorem status_logout : (logout site moment request).2.status ≠ 429 := by
  unfold logout
  split
  next => exact (by decide : 200 ≠ 429)
  next error _ => exact status_ofSession error site.policy.secureCookies

end Session

theorem handle_status (site : Site) (moment : Moment) (request : Http.Request) :
    (handle site moment request).2.status = (route site moment request).2.status := by
  unfold handle
  simp only
  split
  next => rfl
  next => rfl

/-- A request for the accounts is one too many exactly if their limiter refuses it. -/
theorem users_status_eq_iff : (users site moment request).2.status = 429 ↔
    (site.registrations.grant request.client).2 = false := by
  unfold users
  rcases site.registrations.grant request.client with ⟨limiter, granted⟩
  cases granted with
  | false =>
    refine iff_of_true ?_ rfl
    simp only
    split
    next => rfl
    next => rfl
  | true =>
    refine iff_of_false ?_ Bool.false_ne_true.symm
    simp only
    split
    next => exact Registration.status_answer
    next => exact (by decide : 405 ≠ 429)

/-- Of the requests for a session only a login can be one too many. -/
theorem session_status_eq_iff : (session site moment request).2.status = 429 ↔
    request.method = "POST" ∧ (site.logins.grant request.client).2 = false := by
  unfold session
  split
  next posted =>
    rw [login, and_iff_right posted]
    rcases site.logins.grant request.client with ⟨limiter, granted⟩
    cases granted with
    | false => exact iff_of_true rfl rfl
    | true => exact iff_of_false Login.status_answer Bool.false_ne_true.symm
  next unposted =>
    refine iff_of_false ?_ fun both => unposted both.1
    split
    next => exact Session.status_authenticated fun _ => (by decide : 200 ≠ 429)
    next =>
      split
      next => exact Session.status_logout
      next => exact (by decide : 405 ≠ 429)

theorem socket_status : (socket site moment request).2.status ≠ 429 := by
  unfold socket
  split
  next => exact Session.status_authenticated fun _ => (by decide : 400 ≠ 429)
  next => exact (by decide : 405 ≠ 429)

/-- A request is one too many exactly if its limiter refuses it. -/
theorem handle_status_eq_iff :
    (handle site moment request).2.status = 429 ↔
      request.resource? = some .session ∧ request.method = "POST" ∧
          (site.logins.grant request.client).2 = false ∨
        request.resource? = some .users ∧ (site.registrations.grant request.client).2 = false := by
  rw [handle_status, route]
  cases asked : request.resource? with
  | none => simp [Http.Response.notFound]
  | some resource =>
    cases resource with
    | users => simp [users_status_eq_iff]
    | session => simp [session_status_eq_iff]
    | socket => simp [socket_status]

/-- A request that is one too many reaches no endpoint. -/
theorem handle_fst_of_status (refused : (handle site moment request).2.status = 429) :
    (handle site moment request).1 = site := by
  rcases handle_status_eq_iff.mp refused with ⟨asked, posted, spent⟩ | ⟨asked, spent⟩
  · rw [handle_fst_of_login asked posted, Limit.Limiter.grant_fst_of_refused spent]
  · rw [handle_fst_of_users asked, spent]
    simp only [Bool.false_eq_true, false_and, if_false]
    rw [Limit.Limiter.grant_fst_of_refused spent]

/-- The limiters of a site after these clients have posted logins and asked for the accounts. -/
structure Site.Counts (site : Site) (logins registrations : List Limit.Client) : Prop where
  logins : site.logins.Counts 10 logins
  registrations : site.registrations.Counts 5 registrations

/-- A posted login counts as a login, a request for the accounts as a registration, and nothing else
counts. -/
theorem Site.Counts.handle {logins registrations : List Limit.Client}
    (counts : site.Counts logins registrations) (moment : Moment) (request : Http.Request) :
    (Endpoint.handle site moment request).1.Counts (logins ++ request.login?.toList)
      (registrations ++ request.registration?.toList) := by
  by_cases limited : request.IsLimited
  · rcases limited with asked | ⟨asked, posted⟩
    · have login : request.login? = none := if_neg fun both => by cases asked.symm.trans both.1
      have registration : request.registration? = some request.client := if_pos asked
      rw [login, registration, Option.toList_none, List.append_nil, handle_fst_of_users asked]
      simp only
      split
      next => exact ⟨counts.logins, counts.registrations.grant request.client⟩
      next => exact ⟨counts.logins, counts.registrations.grant request.client⟩
    · have login : request.login? = some request.client := if_pos ⟨asked, posted⟩
      have registration : request.registration? = none :=
        if_neg fun users => by cases asked.symm.trans users
      rw [login, registration, Option.toList_none, List.append_nil, handle_fst_of_login asked posted]
      exact ⟨counts.logins.grant request.client, counts.registrations⟩
  · have login : request.login? = none := if_neg fun both => limited (.inr both)
    have registration : request.registration? = none := if_neg fun users => limited (.inl users)
    rw [login, registration, Option.toList_none, List.append_nil, List.append_nil,
      handle_fst_of_unlimited limited]
    exact ⟨counts.logins, counts.registrations⟩

end Endpoint

end SessionServer
