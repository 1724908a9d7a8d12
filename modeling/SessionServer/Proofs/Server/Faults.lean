import SessionServer.Proofs.Server.Calls
import SessionServer.Proofs.Server.Logout
import SessionServer.Proofs.Session.Faults

/-!
Runs in which store calls fail. A check in which a call fails says so and lets nothing pass, and it leaves
no trace: without the steps in which a call failed, all others come out as they did.
-/

namespace SessionServer.Server
open Revocation (Call)
open Session (Stores StoreFault faultOf tokenFault? checkFault? logoutFault?)

/-- The stores that do not answer during a step. -/
structure Faults where
  revocations : Bool := false
  people : Bool := false

namespace Operation

/-- What is asked about sessions and their revocations, and the purges that are made as scheduled. -/
def IsOnSessions : Operation → Prop
  | .validate _ _ | .validateToken _ _ | .logout _ _ | .recheck _ _ | .isRevoked _ _ | .revoke _ _
  | .cleanUp _ => True
  | _ => False

theorem onlyCalls_of_isOnSessions {operation : Operation} (onSessions : operation.IsOnSessions) :
    operation.OnlyCalls := by
  cases operation with
  | revoke | isRevoked | cleanUp | validate | validateToken | logout | recheck => trivial
  | _ => exact onSessions.elim

/-- Whether an operation is one of those that decide on a session. -/
def Decides : Operation → Prop
  | .validate _ _ | .validateToken _ _ | .logout _ _ | .recheck _ _ => True
  | _ => False

theorem outcome_eq_sessionError_iff {α : Type} {succeed : α → Outcome} {error : Session.Error}
    {result : Except Session.Error α} (apart : ∀ value, succeed value ≠ .sessionError error) :
    outcome .sessionError succeed result = .sessionError error ↔ result = .error error := by
  cases result with
  | error => simp [outcome]
  | ok value => simpa [outcome] using apart value

/-- The fault of the store call that fails in an operation. -/
def fault? (secret : Bytes) (stores : Stores) : Operation → Option StoreFault
  | .validate headers now => checkFault? secret stores headers now
  | .validateToken token now => tokenFault? secret stores token now
  | .logout headers now => logoutFault? secret stores headers now
  | .recheck session now => faultOf (stores.isRevoked session.token now).2
  | .isRevoked token now => faultOf (stores.isRevoked token now).2
  | .revoke token expiry => faultOf (stores.revoke token expiry).2
  | .cleanUp now => faultOf (stores.purge now).2
  | _ => none

end Operation

/-- An outcome, whatever it counts. -/
def Outcome.uncounted : Outcome → Outcome
  | .count _ => .count 0
  | outcome => outcome

/-- What was done in a step, the fault of the store call that failed in it, and its outcome. -/
structure Report where
  operation : Operation
  fault : Option StoreFault
  outcome : Outcome

/-- A report without what it counts. -/
def Report.uncounted (report : Report) : Report := { report with outcome := report.outcome.uncounted }

namespace State

/-- A server some of whose stores do not answer. -/
def under (state : State) (faults : Faults) : State :=
  let stores := state.site.stores
  state.withStores
    { stores with
      unreachable := stores.unreachable || faults.revocations
      people := if faults.people then .listed [] true 0 else stores.people }

/-- Carries out an operation while some stores do not answer; afterwards they do again. -/
def stepUnder (state : State) (faults : Faults) (operation : Operation) : State × Outcome :=
  let (after, outcome) := (state.under faults).step operation
  let stores := after.site.stores
  (after.withStores
    { stores with
      unreachable := state.site.stores.unreachable
      people := if faults.people then state.site.stores.people else stores.people }, outcome)

def faultUnder? (state : State) (faults : Faults) (operation : Operation) : Option StoreFault :=
  operation.fault? state.setup.policy.secret (state.under faults).site.stores

/-- What comes of the steps of a run. -/
def reports (state : State) : List (Faults × Operation) → List Report
  | [] => []
  | (faults, operation) :: rest =>
      { operation := operation, fault := state.faultUnder? faults operation
        outcome := (state.stepUnder faults operation).2 } ::
        (state.stepUnder faults operation).1.reports rest

/-- A run without the steps in which a store call fails. -/
def surviving (state : State) : List (Faults × Operation) → List (Faults × Operation)
  | [] => []
  | (faults, operation) :: rest =>
      let others := (state.stepUnder faults operation).1.surviving rest
      match state.faultUnder? faults operation with
      | some _ => others
      | none => (faults, operation) :: others

variable {state first second third : State} {faults : Faults} {operation : Operation} {last next : Nat}

/-- A step under faults calls the register as it is then, and may count a question. -/
theorem stepUnder_fst (onSessions : operation.IsOnSessions) (state : State) (faults : Faults) :
    ∃ people, people.uncounted = state.site.stores.people.uncounted ∧
      (state.stepUnder faults operation).1 = state.withStores
        { (state.under faults).site.stores.receive
            (operation.call? state.setup.policy.secret) with
          unreachable := state.site.stores.unreachable, people := people } := by
  obtain ⟨people, counted, same⟩ :=
    (state.under faults).step_of_onlyCalls (Operation.onlyCalls_of_isOnSessions onSessions)
  refine ⟨if faults.people then state.site.stores.people else people, ?_, ?_⟩
  · cases failing : faults.people with
    | true => rfl
    | false =>
      simp only [under, withStores, failing, Bool.false_eq_true, if_false] at counted
      exact counted
  · simp only [stepUnder, same]
    rfl

/-- Where nothing can be written, the register stays as it is. -/
theorem stepUnder_entries (onSessions : operation.IsOnSessions)
    (unwritable : ¬ state.site.stores.IsWritable) :
    (state.stepUnder faults operation).1.site.stores.entries? = state.site.stores.entries? := by
  obtain ⟨people, -, same⟩ := stepUnder_fst onSessions state faults
  have refused : ¬ (state.under faults).site.stores.IsWritable := unwritable
  rw [same, Stores.receive_of_unwritable refused]
  rfl

theorem stepUnder_isWritable (onSessions : operation.IsOnSessions) :
    (state.stepUnder faults operation).1.site.stores.IsWritable ↔ state.site.stores.IsWritable := by
  obtain ⟨people, -, same⟩ := stepUnder_fst onSessions state faults
  rw [same]
  exact Stores.receive_isWritable _ _

/-- Whether every answer of two servers about sessions is the same from `last` on. Where nothing can be
written, their registers stay the same, so that purges fail in both or in neither. -/
structure Alike (last : Nat) (first second : State) : Prop where
  setup : second.setup = first.setup
  stores : first.site.stores.Alike last second.site.stores
  unwritten : ¬ first.site.stores.IsWritable → second.site.stores.entries? = first.site.stores.entries?

theorem alike_refl (distinct : state.site.stores.IsDistinct) : Alike last state state :=
  ⟨rfl, Stores.alike_refl distinct, fun _ => rfl⟩

theorem Alike.symm (alike : Alike last first second) : Alike last second first where
  setup := alike.setup.symm
  stores := alike.stores.symm
  unwritten unwritable := (alike.unwritten (mt alike.stores.matches.isWritable_iff.mpr unwritable)).symm

theorem Alike.trans (alike : Alike last first second) (other : Alike last second third) :
    Alike last first third where
  setup := other.setup.trans alike.setup
  stores := alike.stores.trans other.stores
  unwritten unwritable :=
    (other.unwritten (mt alike.stores.matches.isWritable_iff.mp unwritable)).trans
      (alike.unwritten unwritable)

theorem Alike.mono (alike : Alike last first second) (order : last ≤ next) : Alike next first second :=
  ⟨alike.setup, alike.stores.mono order, alike.unwritten⟩

/-- A step in which a store call fails leaves the server alike to what it was: either the register
failed, or there is only a question that another store had to answer as well. -/
theorem alike_of_fault (distinct : state.site.stores.IsDistinct) (onSessions : operation.IsOnSessions)
    (failed : (state.faultUnder? faults operation).isSome = true)
    (past : ∀ now, operation.reading? = some now → now ≤ last) :
    Alike last state (state.stepUnder faults operation).1 := by
  have apart : (state.under faults).site.stores.IsDistinct := distinct
  have unwritten : (∀ register, ¬ (state.under faults).site.stores.Serves register) ∨
      operation.loggedOut? = none ∧ ∀ token expiry, operation ≠ .revoke token expiry := by
    cases operation with
    | revoke token expiry => exact .inl (Stores.not_serves_of_faultOf_revoke failed)
    | logout headers now => exact .inl (Session.not_serves_of_logoutFault? failed)
    | isRevoked | validate | validateToken | recheck | cleanUp => exact .inr ⟨rfl, nofun⟩
    | _ => exact onSessions.elim
  have called : (state.under faults).site.stores.Alike last
      ((state.under faults).site.stores.receive (operation.call? state.setup.policy.secret)) := by
    rcases unwritten with refuses | ⟨silent, indirect⟩
    · rw [Stores.receive_of_not_serves refuses]
      exact Stores.alike_refl apart
    · refine Stores.alike_receive apart (Operation.call?_ne_revoke silent indirect)
        (Operation.call?_ne_flush ?_) (Operation.reading?_of_call? past)
      rintro rfl
      exact onSessions
  have unwritten := @stepUnder_entries state faults _ onSessions
  obtain ⟨people, counted, same⟩ := stepUnder_fst onSessions state faults
  rw [same] at unwritten ⊢
  exact ⟨rfl, called.withReach state.site.stores.unreachable counted, unwritten⟩

theorem Alike.under (alike : Alike last first second) (faults : Faults) :
    (first.under faults).site.stores.Alike last (second.under faults).site.stores := by
  have people : (if faults.people then .listed [] true 0 else second.site.stores.people).uncounted =
      (if faults.people then .listed [] true 0 else first.site.stores.people).uncounted := by
    split
    next => rfl
    next => exact alike.stores.people
  simp only [State.under, alike.stores.unreachable]
  exact alike.stores.withReach _ people

theorem Alike.stepUnder_fst (alike : Alike last first second) (onSessions : operation.IsOnSessions)
    (past : ∀ now, operation.reading? = some now → now ≤ last) (faults : Faults) :
    Alike last (first.stepUnder faults operation).1 (second.stepUnder faults operation).1 := by
  refine ⟨?_, ?_, ?_⟩
  · obtain ⟨people, -, same⟩ := State.stepUnder_fst onSessions first faults
    obtain ⟨others, -, otherSame⟩ := State.stepUnder_fst onSessions second faults
    rw [same, otherSame]
    exact alike.setup
  · obtain ⟨people, counted, same⟩ := State.stepUnder_fst onSessions first faults
    obtain ⟨others, otherCounted, otherSame⟩ := State.stepUnder_fst onSessions second faults
    rw [same, otherSame, alike.setup, alike.stores.unreachable]
    exact ((alike.under faults).receive (Operation.reading?_of_call? past)).withReach _
      (otherCounted.trans (alike.stores.people.trans counted.symm))
  · intro refused
    have unwritable := mt (stepUnder_isWritable onSessions).mpr refused
    rw [stepUnder_entries onSessions unwritable,
      stepUnder_entries onSessions (mt alike.stores.matches.isWritable_iff.mp unwritable)]
    exact alike.unwritten unwritable

theorem Alike.faultUnder? (alike : Alike last first second) (onSessions : operation.IsOnSessions)
    (order : ∀ now, operation.reading? = some now → last ≤ now) (faults : Faults) :
    first.faultUnder? faults operation = second.faultUnder? faults operation := by
  have stores := alike.under faults
  unfold State.faultUnder?
  rw [alike.setup]
  cases operation with
  | revoke token expiry => simp only [Operation.fault?, stores.revoke_snd]
  | isRevoked token now =>
    simp only [Operation.fault?, Stores.faultOf_isRevoked, stores.faultOf_register]
  | cleanUp now => exact stores.faultOf_purge alike.unwritten now
  | recheck session now =>
    simp only [Operation.fault?, Stores.faultOf_isRevoked, stores.faultOf_register]
  | validate headers now => exact stores.checkFault? (order now rfl) _ headers
  | validateToken token now => exact stores.tokenFault? (order now rfl) _ token
  | logout headers now => exact stores.logoutFault? _ headers now
  | _ => exact onSessions.elim

/-- Alike servers tell the same, but for how many entries a purge drops. -/
theorem Alike.stepUnder_snd (alike : Alike last first second) (onSessions : operation.IsOnSessions)
    (order : ∀ now, operation.reading? = some now → last ≤ now) (faults : Faults) :
    (first.stepUnder faults operation).2.uncounted =
      (second.stepUnder faults operation).2.uncounted := by
  have stores := alike.under faults
  have secret : (second.under faults).setup = (first.under faults).setup := alike.setup
  show ((first.under faults).step operation).2.uncounted =
    ((second.under faults).step operation).2.uncounted
  cases operation with
  | revoke token expiry =>
    simp only [step, Operation.onStores, stores.revoke_snd]
  | isRevoked token now => simp only [step, Operation.onStores, stores.isRevoked_snd (order now rfl)]
  | cleanUp now => rfl
  | recheck session now => simp only [step, Operation.onStores, stores.recheck_snd (order now rfl)]
  | validate headers now =>
    simp only [step, Operation.onStores, secret, stores.validate_snd (order now rfl)]
  | validateToken token now =>
    simp only [step, Operation.onStores, secret, stores.validateToken_snd (order now rfl)]
  | logout headers now => simp only [step, Operation.onStores, secret, stores.logout_snd]
  | _ => exact onSessions.elim

/-- An operation that decides on a session says that it cannot exactly if a store call fails in it. -/
theorem stepUnder_eq_unavailable_iff (decides : operation.Decides) :
    (state.stepUnder faults operation).2 = .sessionError .validatorUnavailable ↔
      (state.faultUnder? faults operation).isSome = true := by
  cases operation with
  | validateToken token now =>
    exact (Operation.outcome_eq_sessionError_iff nofun).trans Session.validateToken_eq_unavailable_iff
  | recheck session now =>
    exact (Operation.outcome_eq_sessionError_iff nofun).trans Session.recheck_eq_unavailable_iff
  | logout headers now =>
    exact (Operation.outcome_eq_sessionError_iff nofun).trans Session.logout_eq_unavailable_iff
  | validate headers now =>
    exact (Operation.outcome_eq_sessionError_iff nofun).trans Session.validate_eq_unavailable_iff
  | _ => exact decides.elim

/-- A run without its faulty steps tells what it told in all others. -/
theorem reports_surviving {steps : List (Faults × Operation)} (alike : Alike last first second)
    (onSessions : ∀ step ∈ steps, step.2.IsOnSessions)
    (order : ∀ now ∈ steps.filterMap (·.2.reading?), last ≤ now)
    (ordered : (steps.filterMap (·.2.reading?)).Pairwise (· ≤ ·)) :
    (second.reports (first.surviving steps)).map Report.uncounted =
      ((first.reports steps).filter (·.fault.isNone)).map Report.uncounted := by
  induction steps generalizing first second last with
  | nil => rfl
  | cons step rest ih =>
    obtain ⟨faults, operation⟩ := step
    obtain ⟨onSession, others⟩ := List.forall_mem_cons.mp onSessions
    obtain ⟨next, forward, reads, later, laterOrdered⟩ := exists_next order ordered
    have same := alike.faultUnder? onSession (fun now read => (reads now read).1) faults
    rw [surviving, reports]
    cases failed : first.faultUnder? faults operation with
    | some fault =>
      have unchanged : Alike next first (first.stepUnder faults operation).1 :=
        alike_of_fault alike.stores.isDistinct onSession (Option.isSome_of_eq_some failed)
          fun now read => (reads now read).2
      have still : Alike next (first.stepUnder faults operation).1 second :=
        unchanged.symm.trans (alike.mono forward)
      exact ih still others later laterOrdered
    | none =>
      have outcome := alike.stepUnder_snd onSession (fun now read => (reads now read).1) faults
      have after : Alike next (first.stepUnder faults operation).1
          (second.stepUnder faults operation).1 := by
        refine Alike.stepUnder_fst (alike.mono forward) onSession ?_ faults
        exact fun now read => (reads now read).2
      have rest := ih after others later laterOrdered
      simp only [reports, List.map_cons, List.filter_cons, Option.isNone_none, if_true, rest]
      rw [Report.uncounted, Report.uncounted, ← same, failed, outcome]

/-- However store calls fail in a run of checks, logouts, revocations and scheduled purges, each operation
that decides on a session says that it cannot exactly if a call fails in it; and without the steps in which
a call failed, all others come out as they did, but that a purge may count other entries. -/
theorem faults_leave_no_trace {steps : List (Faults × Operation)}
    (distinct : state.site.stores.IsDistinct) (onSessions : ∀ step ∈ steps, step.2.IsOnSessions)
    (ordered : (steps.filterMap (·.2.reading?)).Pairwise (· ≤ ·)) :
    (∀ report ∈ state.reports steps, report.operation.Decides →
      (report.outcome = .sessionError .validatorUnavailable ↔ report.fault.isSome = true)) ∧
    (state.reports (state.surviving steps)).map Report.uncounted =
      ((state.reports steps).filter (·.fault.isNone)).map Report.uncounted := by
  refine ⟨?_, reports_surviving (alike_refl distinct) onSessions
    (fun _ _ => Nat.zero_le _) ordered⟩
  clear distinct onSessions ordered
  intro report member decides
  induction steps generalizing state with
  | nil => cases member
  | cons step rest ih =>
    rcases List.mem_cons.mp member with rfl | later
    · exact stepUnder_eq_unavailable_iff decides
    · exact ih later

/-- The accounts cannot be asked in the check of a good token, and then the register not in its logout; the
question that follows is answered as if neither had happened. -/
theorem faults_leave_no_trace_inMemory :
    ∃ headers, Credential.presented? headers = some tokenOfAnHour ∧
      let steps : List (Faults × Operation) :=
        [({ people := true }, .validate headers 1700000000),
          ({ revocations := true }, .logout headers 1700000001),
          ({}, .isRevoked tokenOfAnHour 1700000002)]
      inMemory.faultUnder? { people := true } (.validate headers 1700000000) = some .refused ∧
      (∀ report ∈ inMemory.reports steps, report.operation.Decides →
        (report.outcome = .sessionError .validatorUnavailable ↔ report.fault.isSome = true)) ∧
      (inMemory.reports (inMemory.surviving steps)).map Report.uncounted =
        ((inMemory.reports steps).filter (·.fault.isNone)).map Report.uncounted := by
  obtain ⟨headers, presented⟩ := presented?_tokenOfAnHour
  have read (now : Nat) (early : now < 1700003600) :
      Token.read [0x6B] tokenOfAnHour now = .ok Token.sessionOfAnHour :=
    (Token.read_of_verify? verify?_tokenOfAnHour now).trans (if_pos early)
  have lookup (stores : Stores) (answered : stores.register = .ok [])
      (people : stores.people = .listed [] true 0) :
      tokenFault? [0x6B] stores tokenOfAnHour 1700000000 = some .refused := by
    have unrevoked : (stores.backing.isRevoked [] tokenOfAnHour 1700000000).2 = false := by
      rw [Revocation.Backing.isRevoked_snd]
      rfl
    rw [Session.tokenFault?_of_read answered unrevoked (read 1700000000 (by decide))]
    simp only [Stores.principal, Stores.receive_people, people, if_true, faultOf]
  have failed : inMemory.faultUnder? { people := true } (.validate headers 1700000000) =
      some .refused := by
    show checkFault? [0x6B] (inMemory.under { people := true }).site.stores headers 1700000000 = _
    rw [checkFault?, presented, Option.bind_some]
    exact lookup (inMemory.under { people := true }).site.stores rfl rfl
  have ordered : [1700000000, 1700000001, 1700000002].Pairwise (· ≤ ·) := by decide
  refine ⟨headers, presented, failed, faults_leave_no_trace ?_ ?_ ordered⟩
  · rintro register ⟨⟩
    exact List.Pairwise.nil
  · simp [Operation.IsOnSessions]

end State

end SessionServer.Server
