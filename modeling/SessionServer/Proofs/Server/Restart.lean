import SessionServer.Proofs.Database.Lasting
import SessionServer.Proofs.Endpoint.Effects
import SessionServer.Proofs.Server.Logout
import SessionServer.Proofs.Server.Steps

/-!
Restarts. A server that was started can be restarted at any time, and finds its database as it left it. If
it keeps its revocations there, and the database is in a file, a restart changes nothing but the limits of
its clients, so that no later answer shows it.
-/

namespace SessionServer.Server
open Session (Stores)

namespace State

/-- A server that can be restarted at any time: the way to its database is open. -/
structure IsLasting (state : State) : Prop where
  settled : state.IsSettled
  lasts : Database.Lasts state.setup.directory state.setup.path state.files
    state.site.stores.database

variable {state : State} {operation : Operation}

theorem isLasting_of_start {setup : Setup} {files remaining : Database.Files}
    (started : start setup files = (remaining, .ok state)) : state.IsLasting := by
  refine ⟨isSettled_of_start started, ?_⟩
  unfold start at started
  split at started
  next => cases started
  next database opens =>
    cases started
    exact Database.lasts_of_openAt opens

/-- The stores of a server after a restart. -/
def restarted (state : State) : Stores :=
  { freshStores state.setup state.site.stores.database.reopened with
    unreachable := state.site.stores.unreachable
    people := state.site.stores.people }

@[simp] theorem step_files (running : operation ≠ .restart) :
    (state.step operation).1.files = state.files := by
  cases operation with
  | restart => exact absurd rfl running
  | _ => rfl

namespace IsLasting
variable (lasting : state.IsLasting)
include lasting

/-- A restart never fails. -/
theorem restart_eq :
    state.restart =
      ({ state with
          files := state.savedFiles
          site := { policy := state.setup.policy, stores := state.restarted } }, .ok ()) := by
  have opens := lasting.lasts state.site.stores.database ⟨rfl, rfl⟩ lasting.settled.current
  unfold restart
  simp only [savedFiles, opens]
  rfl

/-- A database stays where it is, and can be written to as before. -/
theorem step_beside : state.site.stores.database.IsBeside (state.step operation).1.site.stores.database := by
  by_cases restarted : operation = .restart
  · subst restarted
    show Database.IsBeside _ state.restart.1.site.stores.database
    rw [lasting.restart_eq]
    exact ⟨rfl, rfl⟩
  · exact (step_stores lasting.settled.policy restarted).beside

theorem step : (state.step operation).1.IsLasting := by
  refine ⟨lasting.settled.step, ?_⟩
  rw [step_setup]
  by_cases restarted : operation = .restart
  · subst restarted
    have files : (state.step .restart).1.files = state.savedFiles := by
      show state.restart.1.files = _
      rw [lasting.restart_eq]
    rw [files]
    exact lasting.lasts.save.beside lasting.step_beside
  · rw [step_files restarted]
    exact lasting.lasts.beside lasting.step_beside

theorem run (operations : List Operation) : (state.run operations).1.IsLasting := by
  induction operations generalizing state with
  | nil => exact lasting
  | cons operation rest ih => exact ih lasting.step

end IsLasting

end State

/-- Whether an operation is a request that counts against a limit. -/
def Operation.CountsAgainstLimit : Operation → Prop
  | .request _ asked => asked.IsLimited
  | _ => False

def Operation.isRestart : Operation → Bool
  | .restart => true
  | _ => false

theorem Operation.eq_restart {operation : Operation} (restarts : operation.isRestart = true) :
    operation = .restart := by
  cases operation with
  | restart => rfl
  | _ => cases restarts

/-- Whether an operation neither closes the connections of a server nor counts against a limit. -/
def Operation.IsSteady (operation : Operation) : Prop :=
  operation ≠ .lose .connections ∧ ¬ operation.CountsAgainstLimit

namespace State

variable {state : State} {operation : Operation}

/-- A server with other files around it, and with other limits. -/
def resumed (state : State) (files : Database.Files) (logins registrations : Limit.Limiter) : State :=
  { state with
    files := files
    site := { state.site with logins := logins, registrations := registrations } }

/-- A server whose database is open, and that keeps no revocations in memory. -/
structure IsWhole (state : State) : Prop where
  isOpen : state.site.stores.database.isClosed = false
  blank : state.site.stores.memory = []

theorem isWhole_of_start {setup : Setup} {files remaining : Database.Files}
    (started : start setup files = (remaining, .ok state)) : state.IsWhole := by
  unfold start at started
  split at started
  next => cases started
  next database opens =>
    cases started
    obtain ⟨_, opened, -, -, updated⟩ := Database.openAt_eq_ok opens
    exact ⟨Database.ofOpened_isClosed updated, rfl⟩

/-- A durable server that is restarted goes on with the same stores. -/
theorem IsLasting.restart_eq_resumed (lasting : state.IsLasting) (whole : state.IsWhole)
    (onFile : state.IsOnFile) :
    state.restart = (state.resumed state.savedFiles Limit.logins Limit.registrations, .ok ()) := by
  obtain ⟨path, inFile⟩ := Option.ne_none_iff_exists'.mp onFile
  have stores : state.restarted = state.site.stores := by
    have backing := lasting.settled.backing
    have isOpen := whole.isOpen
    have blank := whole.blank
    unfold restarted freshStores
    rw [Database.reopened_of_path inFile, ← backing]
    generalize state.site.stores = stores at *
    rcases stores with ⟨kind, memory, unreachable, ⟨place, tables, isClosed, writeFault⟩, people⟩
    cases inFile
    cases isOpen
    cases blank
    rfl
  rw [lasting.restart_eq, stores, ← lasting.settled.policy]
  rfl

/-- A steady operation leaves the database open, and keeps nothing in memory that is kept in the
database. -/
theorem IsWhole.step (whole : state.IsWhole) (settled : state.IsSettled)
    (inDatabase : state.setup.backing = .database) (running : operation ≠ .restart)
    (steady : operation.IsSteady) : (state.step operation).1.IsWhole := by
  have received (call : Option Revocation.Call) :
      (state.site.stores.receive call).database.isClosed = false ∧
        (state.site.stores.receive call).memory = [] := by
    rw [Stores.receive_isClosed, Stores.receive_memory (settled.backing.trans inDatabase)]
    exact ⟨whole.isOpen, whole.blank⟩
  have called (only : operation.OnlyCalls) : (state.step operation).1.IsWhole := by
    obtain ⟨people, -, same⟩ := state.step_of_onlyCalls only
    rw [same]
    exact ⟨(received _).1, (received _).2⟩
  cases operation with
  | restart => exact absurd rfl running
  | request moment asked =>
    have unlimited : ¬ asked.IsLimited := steady.2
    rw [step_request_fst, Endpoint.handle_fst_of_unlimited unlimited]
    exact ⟨(received _).1, (received _).2⟩
  | createAccount email displayName passwordHash =>
    obtain ⟨accounts, written⟩ :=
      state.site.stores.database.createAccount_frame email displayName passwordHash
    exact ⟨(congrArg Database.isClosed written).trans whole.isOpen, whole.blank⟩
  | deleteAccount id =>
    obtain ⟨accounts, written⟩ := state.site.stores.database.deleteAccount_frame id
    exact ⟨(congrArg Database.isClosed written).trans whole.isOpen, whole.blank⟩
  | lose loss =>
    cases loss with
    | connections => exact absurd rfl steady.1
    | accounts => exact ⟨whole.isOpen, whole.blank⟩
    | revokedTokens => exact ⟨whole.isOpen, whole.blank⟩
  | fail part =>
    cases part with
    | revocations => exact ⟨whole.isOpen, whole.blank⟩
    | people => exact ⟨whole.isOpen, whole.blank⟩
  | repair part =>
    cases part with
    | revocations => exact ⟨whole.isOpen, whole.blank⟩
    | people => exact ⟨whole.isOpen, whole.blank⟩
  | putPerson | removePerson => exact ⟨whole.isOpen, whole.blank⟩
  | size | rows | issue | accountById | accountByEmail | accountPrincipal | files => exact whole
  | _ => exact called trivial

variable {files : Database.Files} {logins registrations : Limit.Limiter}

/-- What is around a server has no part in an operation, but in what counts against a limit, in a restart
and in a look at the files. -/
theorem step_resumed (running : operation ≠ .restart) (unlimited : ¬ operation.CountsAgainstLimit)
    (saved : state.site.stores.database.save files = state.savedFiles) :
    (state.resumed files logins registrations).step operation =
      ((state.step operation).1.resumed files logins registrations, (state.step operation).2) := by
  cases operation with
  | restart => exact absurd rfl running
  | files =>
    show (state.resumed files logins registrations,
      Outcome.files ((state.site.stores.database.save files).names state.setup.directory)) = _
    rw [saved]
    rfl
  | request moment asked =>
    have asks : ¬ asked.IsLimited := unlimited
    have sameAnswer : (Endpoint.handle (state.resumed files logins registrations).site moment asked).2 =
        (Endpoint.handle state.site moment asked).2 :=
      Endpoint.handle_snd_congr rfl asks (fun _ _ => rfl) (fun _ _ => rfl)
    apply Prod.ext
    · rw [step_request_fst, step_request_fst, Endpoint.handle_fst_of_unlimited asks,
        Endpoint.handle_fst_of_unlimited asks]
      rfl
    · rw [step_request, sameAnswer, step_request]
  | _ => rfl

/-- Whether a server goes on as another one: it differs from it in its limits at most, and in the files
only where its database is written. -/
def GoesOnAs (state other : State) : Prop :=
  ∃ files logins registrations, state = other.resumed files logins registrations ∧
    ∀ database : Database, database.path = other.site.stores.database.path →
      database.save files = database.save other.files

variable {other : State}

theorem goesOnAs_refl (state : State) : state.GoesOnAs state :=
  ⟨state.files, state.site.logins, state.site.registrations, rfl, fun _ _ => rfl⟩

/-- A restart leaves a server to go on as before. -/
theorem GoesOnAs.restart (goesOn : state.GoesOnAs other) (lasting : state.IsLasting)
    (whole : state.IsWhole) (onFile : state.IsOnFile) : state.restart.1.GoesOnAs other := by
  obtain ⟨files, logins, registrations, same, saved⟩ := goesOn
  refine ⟨state.savedFiles, Limit.logins, Limit.registrations, ?_, ?_⟩
  · rw [lasting.restart_eq_resumed whole onFile, same]
    rfl
  · intro database here
    rw [savedFiles, same]
    exact (Database.save_save files here).trans (saved database here)

/-- Any other operation has the same outcome on both, and leaves one to go on as the other. -/
theorem GoesOnAs.step (goesOn : state.GoesOnAs other) (settled : other.IsSettled)
    (running : operation ≠ .restart) (unlimited : ¬ operation.CountsAgainstLimit) :
    (state.step operation).2 = (other.step operation).2 ∧
      (state.step operation).1.GoesOnAs (other.step operation).1 := by
  obtain ⟨files, logins, registrations, rfl, saved⟩ := goesOn
  rw [step_resumed running unlimited (saved _ rfl)]
  refine ⟨rfl, files, logins, registrations, rfl, ?_⟩
  rw [settled.step_path, step_files running]
  exact saved

/-- The outcomes of a run, but for those of its restarts. -/
def answers (state : State) (operations : List Operation) : List Outcome :=
  ((operations.zip (state.run operations).2).filter fun told => !told.1.isRestart).map Prod.snd

theorem answers_restart (state : State) (rest : List Operation) :
    state.answers (.restart :: rest) = state.restart.1.answers rest := rfl

theorem answers_cons (running : operation.isRestart = false) (rest : List Operation) :
    state.answers (operation :: rest) =
      (state.step operation).2 :: (state.step operation).1.answers rest := by
  simp only [answers, run_cons, List.zip_cons_cons, List.filter_cons, running, Bool.not_false, if_true,
    List.map_cons]

/-- The answers of a run are those of the run without its restarts. -/
theorem answers_eq_run {operations : List Operation} (goesOn : state.GoesOnAs other)
    (lasting : state.IsLasting) (settled : other.IsSettled) (whole : state.IsWhole)
    (inDatabase : state.setup.backing = .database) (onFile : state.IsOnFile)
    (steady : ∀ operation ∈ operations, operation.IsSteady) :
    state.answers operations = (other.run (operations.filter (!·.isRestart))).2 := by
  induction operations generalizing state other with
  | nil => rfl
  | cons operation rest ih =>
    obtain ⟨here, later⟩ := List.forall_mem_cons.mp steady
    cases restarts : operation.isRestart with
    | true =>
      obtain rfl := Operation.eq_restart restarts
      have wholeAfter : state.restart.1.IsWhole := by
        rw [lasting.restart_eq_resumed whole onFile]
        exact ⟨whole.isOpen, whole.blank⟩
      have after : state.restart.1 = (state.step .restart).1 := rfl
      rw [answers_restart]
      refine ih (goesOn.restart lasting whole onFile) (after ▸ lasting.step) settled wholeAfter ?_ ?_ later
      · rw [after, step_setup]
        exact inDatabase
      · rw [after]
        exact lasting.settled.step_isOnFile.mpr onFile
    | false =>
      have running : operation ≠ .restart := by
        rintro rfl
        cases restarts
      obtain ⟨sameOutcome, goesOnAfter⟩ := goesOn.step settled running here.2
      have wholeAfter := whole.step lasting.settled inDatabase running here
      rw [answers_cons restarts, List.filter_cons, restarts, if_pos Bool.not_false, run_cons, sameOutcome]
      congr 1
      refine ih goesOnAfter lasting.step settled.step wholeAfter ?_ ?_ later
      · rw [step_setup]
        exact inDatabase
      · exact lasting.settled.step_isOnFile.mpr onFile

/-- Every restart in a run succeeds. -/
theorem IsLasting.restarts_done (lasting : state.IsLasting) {operations : List Operation} :
    ∀ told ∈ operations.zip (state.run operations).2, told.1.isRestart = true → told.2 = .done := by
  induction operations generalizing state with
  | nil => exact fun told member => nomatch member
  | cons operation rest ih =>
    intro told member restarts
    rw [run_cons, List.zip_cons_cons] at member
    rcases List.mem_cons.mp member with rfl | later
    · obtain rfl := Operation.eq_restart restarts
      show Operation.outcome .databaseError (fun _ => .done) state.restart.2 = _
      rw [lasting.restart_eq]
      rfl
    · exact ih lasting.step told later restarts

/-- Restarts are not seen. If a server keeps its revocations in its database, and this in a file, then two
runs that differ in nothing but where they restart tell the same of every other operation, as long as
nobody closes its connections for good and nothing counts against a limit, which a restart renews; and each
restart succeeds. The tables of accounts and of revocations may be lost in the runs. -/
theorem restart_invisible {setup : Setup} {files remaining : Database.Files}
    (started : start setup files = (remaining, .ok state)) (inDatabase : setup.backing = .database)
    (onFile : state.IsOnFile) {operations interrupted : List Operation}
    (steady : ∀ operation ∈ operations, operation.IsSteady)
    (same : interrupted.filter (!·.isRestart) = operations.filter (!·.isRestart)) :
    state.answers interrupted = state.answers operations ∧
      ∀ told ∈ interrupted.zip (state.run interrupted).2, told.1.isRestart = true →
        told.2 = .done := by
  have lasting := isLasting_of_start started
  have kept : state.setup.backing = .database := by
    rw [← inDatabase, ← setup_of_start started]
  have without {others : List Operation} (steady : ∀ operation ∈ others, operation.IsSteady) :
      state.answers others = (state.run (others.filter (!·.isRestart))).2 :=
    answers_eq_run (goesOnAs_refl state) lasting lasting.settled (isWhole_of_start started) kept onFile
      steady
  have steadyToo : ∀ operation ∈ interrupted, operation.IsSteady := by
    intro operation member
    cases restarts : operation.isRestart with
    | true =>
      obtain rfl := Operation.eq_restart restarts
      exact ⟨nofun, id⟩
    | false =>
      have kept : operation ∈ interrupted.filter (!·.isRestart) :=
        List.mem_filter.mpr ⟨member, by rw [restarts]; rfl⟩
      rw [same] at kept
      exact steady operation (List.mem_filter.mp kept).1
  refine ⟨?_, lasting.restarts_done⟩
  calc
    state.answers interrupted = (state.run (interrupted.filter (!·.isRestart))).2 := without steadyToo
    _ = (state.run (operations.filter (!·.isRestart))).2 := by rw [same]
    _ = state.answers operations := (without steady).symm

/-- A server that has just been started on a file that was not there. -/
def onNewFile : State := { onFile with files := onFile.savedFiles }

theorem start_onNewFile : start onFile.setup {} = ((start onFile.setup {}).1, .ok onNewFile) := by
  have started : (start onFile.setup {}).2.toOption = some onNewFile := by decide +kernel
  rw [← Database.eq_ok_of_toOption started]

/-- Two restarts change no answer, though the accounts are lost between them: not the id of the next
account, not that there are no accounts any more, and not which tokens are revoked. -/
theorem restart_invisible_onNewFile :
    let operations : List Operation :=
      [.createAccount "ada@example.org" "Ada" "hash", .deleteAccount 1,
        .createAccount "bob@example.org" "Bob" "hash", .revoke "token" 6, .lose .accounts,
        .accountById 2, .rows]
    let interrupted : List Operation := operations.take 2 ++ .restart :: (operations.drop 2).take 3 ++
      .restart :: operations.drop 5
    onNewFile.answers interrupted = onNewFile.answers operations ∧
      onNewFile.answers operations = [.id 1, .truth true, .id 2, .done, .done,
        .databaseError (.noSuchTable "users"), .rows [(Revocation.digest "token", 6)]] := by
  intro operations interrupted
  have onFile : onNewFile.IsOnFile := Option.some_ne_none _
  have steady : ∀ operation ∈ operations, operation.IsSteady := by
    simp [operations, Operation.IsSteady, Operation.CountsAgainstLimit]
  have same : interrupted.filter (!·.isRestart) = operations.filter (!·.isRestart) := rfl
  exact ⟨(restart_invisible start_onNewFile rfl onFile steady same).1, rfl⟩

end State

end SessionServer.Server
