import SessionServer.Proofs.Endpoint.Limits
import SessionServer.Proofs.Server.SignIn

/-!
How often a client may ask. Of the logins that a client posts the first ten are answered, of its requests
for the accounts the first five, whatever they are and whatever else is done to the server in between.
-/

namespace SessionServer.Server
open Endpoint (Site)

/-- Who posts a login by an operation. -/
def Operation.login? : Operation → Option Limit.Client
  | .request _ asked => asked.login?
  | _ => none

/-- Who asks for the accounts by an operation. -/
def Operation.registration? : Operation → Option Limit.Client
  | .request _ asked => asked.registration?
  | _ => none

namespace State

variable {state : State} {before : List Operation}

/-- Requests are counted by their limiters, and all else but a restart leaves the limiters alone. -/
theorem step_counts {logins registrations : List Limit.Client}
    (counts : state.site.Counts logins registrations) {operation : Operation}
    (running : operation ≠ .restart) :
    (state.step operation).1.site.Counts (logins ++ operation.login?.toList)
      (registrations ++ operation.registration?.toList) := by
  have silent (site : Site) (sameLogins : site.logins = state.site.logins)
      (sameRegistrations : site.registrations = state.site.registrations) :
      site.Counts (logins ++ []) (registrations ++ []) := by
    rw [List.append_nil, List.append_nil]
    exact ⟨sameLogins ▸ counts.logins, sameRegistrations ▸ counts.registrations⟩
  cases operation with
  | restart => exact absurd rfl running
  | request moment asked => exact counts.handle moment asked
  | _ => exact silent _ rfl rfl

/-- The limiters of a server count the clients in the order in which they asked. -/
theorem run_counts {logins registrations : List Limit.Client}
    (counts : state.site.Counts logins registrations) (running : .restart ∉ before) :
    (state.run before).1.site.Counts (logins ++ before.filterMap Operation.login?)
      (registrations ++ before.filterMap Operation.registration?) := by
  induction before generalizing state logins registrations with
  | nil =>
    rw [List.filterMap_nil, List.filterMap_nil, List.append_nil, List.append_nil]
    exact counts
  | cons operation rest ih =>
    rw [List.mem_cons, not_or] at running
    have later := ih (step_counts counts (Ne.symm running.1)) running.2
    simp only [List.filterMap_eq_flatMap_toList, List.flatMap_cons, List.append_assoc] at later ⊢
    exact later

theorem counts_of_start {setup : Setup} {files remaining : Database.Files}
    (started : start setup files = (remaining, .ok state)) : state.site.Counts [] [] := by
  unfold start at started
  split at started
  next => cases started
  next =>
    cases started
    exact ⟨Limit.Limiter.counts_nil 10, Limit.Limiter.counts_nil 5⟩

/-- Since its start a server refuses a client's posted logins from the eleventh on, and its requests for the
accounts from the sixth on, and no other request: whatever came before, from this client or from others,
and however it was answered. A request that is refused so leaves the server as it was. A client is the
address of a peer, whatever its port, or a caller within the process. -/
theorem requests_limited {setup : Setup} {files remaining : Database.Files}
    (started : start setup files = (remaining, .ok state)) (running : .restart ∉ before)
    (moment : Endpoint.Moment) (asked : Http.Request) :
    let reached := (state.run before).1
    let earlierLogins := (before.filterMap Operation.login?).count asked.client
    let earlierRegistrations := (before.filterMap Operation.registration?).count asked.client
    (∃ response, (reached.step (.request moment asked)).2 = .response response ∧
      (response.status = 429 ↔
        asked.resource? = some .session ∧ asked.method = "POST" ∧ 10 < earlierLogins + 1 ∨
          asked.resource? = some .users ∧ 5 < earlierRegistrations + 1) ∧
      (response.status = 429 → (reached.step (.request moment asked)).1 = reached)) ∧
    ∀ (address : Address) (port : Nat), Address.ofPeer? (address.writePeer port) = some address := by
  intro reached earlierLogins earlierRegistrations
  have counts : reached.site.Counts (before.filterMap Operation.login?)
      (before.filterMap Operation.registration?) := run_counts (counts_of_start started) running
  have login : (reached.site.logins.grant asked.client).2 = false ↔ 10 < earlierLogins + 1 := by
    rw [← Bool.not_eq_true, counts.logins.granted_iff, Nat.not_lt, Nat.lt_succ_iff]
  have registration : (reached.site.registrations.grant asked.client).2 = false ↔
      5 < earlierRegistrations + 1 := by
    rw [← Bool.not_eq_true, counts.registrations.granted_iff, Nat.not_lt, Nat.lt_succ_iff]
  refine ⟨⟨_, step_request reached moment asked, ?_, ?_⟩, Address.ofPeer?_writePeer⟩
  · rw [Endpoint.handle_status_eq_iff, login, registration]
  · intro refused
    rw [step_request_fst, Endpoint.handle_fst_of_status refused]

def loopback : Limit.Client := .peer (.v4 { toList := [127, 0, 0, 1] })

/-- The same address as one of eight groups. -/
def mappedLoopback : Limit.Client := .peer (.v6 { toList := [0, 0, 0, 0, 0, 0xFFFF, 0x7F00, 1] })

def emptyLogin (client : Limit.Client) : Http.Request :=
  { method := "POST", target := "/api/session", client := client }

/-- After ten logins of one client the next is one too many, and that of another client is not. -/
theorem requests_limited_inMemory :
    let before := List.replicate 10 (.request firstMoment (emptyLogin loopback))
    let reached := (inMemory.run before).1
    (Operation.restart ∉ before) ∧
      (Endpoint.handle reached.site firstMoment (emptyLogin loopback)).2.status = 429 ∧
      (Endpoint.handle reached.site firstMoment (emptyLogin mappedLoopback)).2.status ≠ 429 := by
  intro before reached
  have place (client : Limit.Client) : (emptyLogin client).resource? = some .session :=
    show Http.Resource.ofPath? (Http.targetPath "/api/session") = some .session by decide
  have login (client : Limit.Client) : (emptyLogin client).login? = some client :=
    if_pos ⟨place client, rfl⟩
  have asked : before.filterMap Operation.login? = List.replicate 10 loopback :=
    List.filterMap_replicate_of_some (login loopback)
  have running : Operation.restart ∉ before := by
    intro member
    cases List.eq_of_mem_replicate member
  have answers (client : Limit.Client) :
      (Endpoint.handle reached.site firstMoment (emptyLogin client)).2.status = 429 ↔
        10 < (List.replicate 10 loopback).count client + 1 := by
    obtain ⟨⟨response, answered, refused, -⟩, -⟩ :=
      requests_limited start_memorySetup running firstMoment (emptyLogin client)
    have same : (Endpoint.handle reached.site firstMoment (emptyLogin client)).2 = response :=
      Outcome.response.inj answered
    have posted : (emptyLogin client).method = "POST" := rfl
    simp only [asked, place, posted, true_and, Option.some.injEq, reduceCtorEq, false_and, or_false]
      at refused
    rw [same]
    exact refused
  refine ⟨running, (answers loopback).mpr (by decide), ?_⟩
  exact fun refused => absurd ((answers mappedLoopback).mp refused) (by decide)

end State

end SessionServer.Server
