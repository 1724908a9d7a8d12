import SessionServer.Proofs.Limit.Limiter
import SessionServer.Proofs.Server.Changes
import SessionServer.Proofs.Session.Steps

/-!
What requests do to a site. A registration writes into the accounts, a login is only counted, and every
other request puts one call to the register at most.
-/

namespace SessionServer

/-- Whether a request counts against a limit. -/
def Http.Request.IsLimited (request : Request) : Prop :=
  request.resource? = some .users ∨ request.resource? = some .session ∧ request.method = "POST"

namespace Endpoint
open Revocation (Call)
open SessionServer.Session (People Stores checkCall? logoutCall?)

/-- The call that a request makes: those for a session or a socket ask for their token, and those that
end a session revoke it. -/
def call? (secret : Bytes) (moment : Moment) (request : Http.Request) : Option Call :=
  match request.resource? with
  | some .session =>
      if request.method = "GET" ∨ request.method = "HEAD" then
        moment.clock.bind (checkCall? request.headers)
      else if request.method = "DELETE" then moment.clock.bind (logoutCall? secret request.headers)
      else none
  | some .socket =>
      if request.method = "GET" ∨ request.method = "HEAD" then
        moment.clock.bind (checkCall? request.headers)
      else none
  | _ => none

/-- The database after a registration that was let through. -/
def Registration.written (database : Database) (moment : Moment) (request : Http.Request) : Database :=
  match Http.JsonBody.read record request with
  | .error _ => database
  | .ok slots => (register database moment (Form.ofSlots slots)).1

theorem register_edits (database : Database) (moment : Moment) (form : Registration.Form) :
    database.Edits none (Registration.register database moment form).1 := by
  rw [Registration.register_fst_eq]
  split
  next => exact database.createAccount_edits _ _ _
  next => exact Database.edits_refl database

theorem written_edits (database : Database) (moment : Moment) (request : Http.Request) :
    database.Edits none (Registration.written database moment request) := by
  unfold Registration.written
  split
  next => exact Database.edits_refl database
  next slots _ => exact register_edits database moment (Registration.Form.ofSlots slots)

variable (site : Site) (moment : Moment) (request : Http.Request)

theorem answer_fst : (Registration.answer site moment request).1 =
    site.withDatabase (Registration.written site.stores.database moment request) := by
  unfold Registration.answer Registration.written
  cases Http.JsonBody.read Registration.record request with
  | error => rfl
  | ok slots =>
    simp only
    split
    next registered => rw [registered]
    next registered => rw [registered]

/-- What endpoints do to their stores is done to the site's. -/
theorem withStores_receive (people : People) (call : Option Call) :
    site.withStores { site.endpointStores.receive call with people := people } =
      { site with stores := site.stores.receive call } := by
  obtain ⟨memory, revokedTokens, same⟩ := site.stores.receive_frame call
  rw [Site.endpointStores, Stores.receive_withPeople, same]
  rfl

theorem authenticate_stores (clock : Option Nat) (headers : Http.Headers) :
    (Session.authenticate site clock headers).1 =
      { site with stores := site.stores.receive (clock.bind (checkCall? headers)) } := by
  cases clock with
  | none => rfl
  | some now =>
    obtain ⟨people, -, same⟩ := SessionServer.Session.validate_fst site.policy.secret site.endpointStores
      headers now
    show site.withStores (SessionServer.Session.validate _ site.endpointStores headers now).1 = _
    rw [same, withStores_receive]
    rfl

theorem endSession_stores (clock : Option Nat) (headers : Http.Headers) :
    (Session.endSession site clock headers).1 =
      { site with
        stores := site.stores.receive (clock.bind (logoutCall? site.policy.secret headers)) } := by
  cases clock with
  | none => rfl
  | some now =>
    show site.withStores (SessionServer.Session.logout _ site.endpointStores headers now).1 = _
    rw [SessionServer.Session.logout_fst]
    exact withStores_receive site _ _

/-- A request for a session or a socket asks for its token. -/
theorem authenticated_stores (respond : SessionServer.Session.Authenticated → Http.Response) :
    (Session.authenticated site moment request respond).1 =
      { site with stores := site.stores.receive (moment.clock.bind (checkCall? request.headers)) } := by
  rw [authenticated_fst, authenticate_stores]

theorem logout_stores : (Session.logout site moment request).1 =
    { site with
      stores := site.stores.receive
        (moment.clock.bind (logoutCall? site.policy.secret request.headers)) } := by
  rw [logout_fst, endSession_stores]

variable {site moment request}

/-- Only a registration that is posted and granted can write into the accounts. -/
theorem handle_fst_of_users (asked : request.resource? = some .users) :
    (handle site moment request).1 =
      let counted := { site with registrations := (site.registrations.grant request.client).1 }
      if (site.registrations.grant request.client).2 = true ∧ request.method = "POST" then
        counted.withDatabase (Registration.written site.stores.database moment request)
      else counted := by
  show (route site moment request).1 = _
  simp only [route, asked, users]
  cases granted : site.registrations.grant request.client with
  | mk limiter allowed =>
    cases allowed with
    | false =>
      have unchanged := Limit.Limiter.grant_fst_of_refused (congrArg Prod.snd granted)
      rw [granted] at unchanged
      simp only [Bool.false_eq_true, false_and, if_false]
      rw [show limiter = site.registrations from unchanged]
    | true =>
      simp only [true_and]
      split
      next => exact answer_fst { site with registrations := limiter } moment request
      next => rfl

/-- A login is counted and writes nothing. -/
theorem handle_fst_of_login (asked : request.resource? = some .session)
    (posted : request.method = "POST") :
    (handle site moment request).1 =
      { site with logins := (site.logins.grant request.client).1 } := by
  show (route site moment request).1 = _
  simp only [route, asked, session, if_pos posted, login]
  cases granted : site.logins.grant request.client with
  | mk limiter allowed =>
    cases allowed with
    | false =>
      have unchanged := Limit.Limiter.grant_fst_of_refused (congrArg Prod.snd granted)
      rw [granted] at unchanged
      simp only
      rw [show limiter = site.logins from unchanged]
    | true => rfl

/-- Every other request puts its call to the register, and does nothing else. -/
theorem handle_fst_of_unlimited (unlimited : ¬ request.IsLimited) :
    (handle site moment request).1 =
      { site with stores := site.stores.receive (call? site.policy.secret moment request) } := by
  show (route site moment request).1 = _
  unfold route call?
  cases asked : request.resource? with
  | none => rfl
  | some resource =>
    cases resource with
    | users => exact absurd (.inl asked) unlimited
    | session =>
      have unposted : request.method ≠ "POST" := fun posted => unlimited (.inr ⟨asked, posted⟩)
      simp only [session, if_neg unposted]
      split
      next => exact authenticated_stores site moment request _
      next =>
        split
        next => exact logout_stores site moment request
        next => rfl
    | socket =>
      simp only [socket]
      split
      next => exact authenticated_stores site moment request _
      next => rfl

/-- What may have become of a site by a request. -/
structure Step (moment : Moment) (request : Http.Request) (before after : Site) : Prop where
  policy : after.policy = before.policy
  stores : before.stores.Step (call? before.policy.secret moment request) none False after.stores

theorem call?_of_isLimited (limited : request.IsLimited) (secret : Bytes) :
    call? secret moment request = none := by
  rcases limited with asked | ⟨asked, posted⟩
  · simp only [call?, asked]
  · simp [call?, asked, posted]

variable (site moment request)

theorem handle_step : Step moment request site (handle site moment request).1 := by
  by_cases limited : request.IsLimited
  · have quiet : call? site.policy.secret moment request = none := call?_of_isLimited limited _
    rcases limited with asked | ⟨asked, posted⟩
    · rw [handle_fst_of_users asked]
      simp only
      split
      next =>
        have edits := written_edits site.stores.database moment request
        exact ⟨rfl, quiet ▸ site.stores.step_edits edits⟩
      next => exact ⟨rfl, quiet ▸ site.stores.step_refl⟩
    · rw [handle_fst_of_login asked posted]
      exact ⟨rfl, quiet ▸ site.stores.step_refl⟩
  · rw [handle_fst_of_unlimited limited]
    refine ⟨rfl, ?_⟩
    exact Stores.step_receive (congrArg People.uncounted (site.stores.receive_people _)) _

end Endpoint

end SessionServer
