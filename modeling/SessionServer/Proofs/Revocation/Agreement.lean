import SessionServer.Proofs.Revocation.Holds
import SessionServer.Proofs.Server.Runs
import SessionServer.Proofs.Session.Contents

/-!
Where revocations are kept is not seen in any answer. In memory and in the database alike, an answer is
determined by what was asked before: a token is revoked if a token with its digest was revoked since the
last flush until a later time.
-/

namespace SessionServer.Revocation
open Server (State Operation Outcome)
open Session (Stores)
open Text.Decimal (maxSigned)

/-- What can be asked of a register, wherever it is kept. -/
inductive Call where
  | revoke (token : String) (expiry : Nat)
  | ask (token : String) (now : Nat)
  | purge (now : Nat)
  | flush

/-- The call as an operation of a server. -/
def Call.operation : Call → Operation
  | .revoke token expiry => .revoke token expiry
  | .ask token now => .isRevoked token now
  | .purge now => .purge now
  | .flush => .flush

/-- The time at which a call reads the clock. -/
def Call.reading? (call : Call) : Option Nat := call.operation.reading?

/-- The calls so far, in order. -/
abbrev History := List Call

/-- Whether a token with this digest was revoked until a time after `now`, and no flush followed. -/
def History.Revokes (history : History) (key : Bytes) (now : Nat) : Prop :=
  ∃ earlier token expiry later, history = earlier ++ .revoke token expiry :: later ∧
    .flush ∉ later ∧ digest token = key ∧ now < expiry

namespace History
variable {history : History} {key : Bytes} {now : Nat}

theorem not_revokes_nil : ¬ Revokes [] key now := by
  rintro ⟨earlier, token, expiry, later, split, -⟩
  exact List.append_ne_nil_of_right_ne_nil earlier (List.cons_ne_nil _ _) split.symm

/-- The last call revokes, or an earlier one did and the last one is no flush. -/
theorem revokes_concat {call : Call} :
    Revokes (history ++ [call]) key now ↔
      (∃ token expiry, call = .revoke token expiry ∧ digest token = key ∧ now < expiry) ∨
        (call ≠ .flush ∧ history.Revokes key now) := by
  constructor
  · rintro ⟨earlier, token, expiry, later, split, unflushed, same, lasts⟩
    rcases List.eq_nil_or_concat later with rfl | ⟨middle, last, rfl⟩
    · obtain ⟨-, single⟩ := List.append_inj' split rfl
      exact .inl ⟨token, expiry, (List.cons.inj single).1, same, lasts⟩
    · rw [List.concat_eq_append, ← List.cons_append, ← List.append_assoc] at split
      obtain ⟨before, single⟩ := List.append_inj' split rfl
      obtain ⟨rfl, -⟩ := List.cons.inj single
      rw [List.concat_eq_append, List.mem_append, not_or, List.mem_singleton] at unflushed
      exact .inr ⟨Ne.symm unflushed.2, earlier, token, expiry, middle, before, unflushed.1, same, lasts⟩
  · rintro (⟨token, expiry, rfl, same, lasts⟩ | ⟨noFlush, earlier, token, expiry, later, rfl, unflushed,
      same, lasts⟩)
    · exact ⟨history, token, expiry, [], rfl, List.not_mem_nil, same, lasts⟩
    · refine ⟨earlier, token, expiry, later ++ [call], ?_, ?_, same, lasts⟩
      · rw [List.append_assoc, List.cons_append]
      · rw [List.mem_append, not_or, List.mem_singleton]
        exact ⟨unflushed, Ne.symm noFlush⟩

theorem revokes_concat_revoke {token : String} {expiry : Nat} :
    Revokes (history ++ [.revoke token expiry]) key now ↔
      history.Revokes key now ∨ digest token = key ∧ now < expiry := by
  rw [revokes_concat]
  constructor
  · rintro (⟨_, _, same, revoked⟩ | ⟨-, revoked⟩)
    · cases same
      exact .inr revoked
    · exact .inl revoked
  · rintro (revoked | revoked)
    · exact .inr ⟨Call.noConfusion, revoked⟩
    · exact .inl ⟨token, expiry, rfl, revoked⟩

end History

/-- The register of the stores can be written to, and answers at `later` as the history says. -/
def Answers (history : History) (later : Nat) (stores : Stores) : Prop :=
  ∃ register, stores.Serves register ∧ register.Distinct ∧
    ∀ key, register.holds key (stores.backing.kept later) = true ↔ history.Revokes key later

variable {history : History} {later : Nat}

theorem answers_empty {stores : Stores} (empty : stores.Serves []) : Answers [] later stores := by
  refine ⟨[], empty, List.Pairwise.nil, ?_⟩
  intro key
  exact ⟨fun held => absurd held Bool.false_ne_true, fun revokes => absurd revokes History.not_revokes_nil⟩

/-- What a call writes into the register, if it answers before and after the call as told. -/
theorem answers_setRegister {call : Call} {stores : Stores} {register changed : Register}
    (serves : stores.Serves register) (distinct : changed.Distinct)
    (holds : ∀ key, changed.holds key (stores.backing.kept later) = true ↔
      History.Revokes (history ++ [call]) key later) :
    Answers (history ++ [call]) later (stores.setRegister changed) := by
  refine ⟨changed, serves.setRegister changed, distinct, ?_⟩
  rw [Stores.setRegister_backing]
  exact holds

theorem answers_step {state : State} (call : Call) (bound : later < maxSigned)
    (past : ∀ reading, call.reading? = some reading → reading ≤ later)
    (answers : Answers history later state.site.stores) :
    Answers (history ++ [call]) later (state.step call.operation).1.site.stores := by
  obtain ⟨register, serves, distinct, holds⟩ := answers
  cases call with
  | revoke token expiry =>
    show Answers _ later (state.site.stores.revoke token expiry).1
    rw [Stores.revoke_of_serves serves]
    refine answers_setRegister serves (distinct.record _ _) ?_
    intro key
    rw [Backing.holds_revoke bound, Bool.or_eq_true, Bool.and_eq_true, decide_eq_true_eq,
      decide_eq_true_eq, holds, History.revokes_concat_revoke]
  | ask token now =>
    have order : now ≤ later := past now rfl
    show Answers _ later (state.site.stores.isRevoked token now).1
    rw [Stores.isRevoked_of_register serves.answered]
    refine answers_setRegister serves (Backing.distinct_isRevoked distinct token now) ?_
    intro key
    rw [Backing.holds_isRevoked order, holds, History.revokes_concat]
    simp
  | purge now =>
    have order : now ≤ later := past now rfl
    show Answers _ later (state.site.stores.purge now).1
    rw [Stores.purge_of_serves serves]
    refine answers_setRegister serves (distinct.live _) ?_
    intro key
    rw [Backing.holds_purge distinct order, holds, History.revokes_concat]
    simp
  | flush =>
    show Answers _ later state.site.stores.flush.1
    rw [Stores.flush_of_serves serves]
    refine answers_setRegister serves List.Pairwise.nil ?_
    intro key
    rw [History.revokes_concat]
    simp [Register.empty, Register.holds, Register.expiry?]

theorem answers_run {state : State} (calls : List Call) (bound : later < maxSigned)
    (past : ∀ reading ∈ calls.filterMap Call.reading?, reading ≤ later)
    (answers : Answers history later state.site.stores) :
    Answers (history ++ calls) later (state.run (calls.map Call.operation)).1.site.stores := by
  induction calls generalizing state history with
  | nil =>
    rw [List.append_nil]
    exact answers
  | cons call rest ih =>
    rw [List.append_cons]
    obtain ⟨first, others⟩ := Server.readings_le_cons.mp past
    exact ih others (answers_step call bound first answers)

/-- An answer in a run is given, and it is what the calls before it say. -/
theorem answer_in_run {state : State} (empty : state.site.stores.Serves []) (before : List Call)
    (token : String) {now : Nat} (after : List Call) (bound : now < maxSigned)
    (past : ∀ reading ∈ before.filterMap Call.reading?, reading ≤ now) :
    ∃ answer,
      (state.run ((before ++ .ask token now :: after).map Call.operation)).2[before.length]? =
        some (.truth answer) ∧
      (answer = true ↔ History.Revokes before (digest token) now) := by
  obtain ⟨register, serves, -, holds⟩ := answers_run before bound past (answers_empty empty)
  have outcome := State.run_getElem? state (before.map Call.operation) (.isRevoked token now)
    (after.map Call.operation)
  rw [List.length_map] at outcome
  refine ⟨_, ?_, holds (digest token)⟩
  rw [List.map_append, List.map_cons]
  apply outcome.trans
  show some (Server.Operation.outcome .storeFault .truth (Stores.isRevoked _ token now).2) = _
  rw [Stores.isRevoked_of_register serves.answered, ← Backing.isRevoked_snd]
  rfl

/-- Two servers that start without revocations, wherever each of them keeps its register, give the same
answers to the same calls while the clock does not go back: a token is revoked exactly if one with its
digest was revoked, since the last flush, until after the time of the question. -/
theorem answers_agree {first second : State} (firstEmpty : first.site.stores.Serves [])
    (secondEmpty : second.site.stores.Serves []) {calls : List Call}
    (ordered : (calls.filterMap Call.reading?).Pairwise (· ≤ ·))
    (bound : ∀ reading ∈ calls.filterMap Call.reading?, reading < maxSigned)
    {before after : List Call} {token : String} {now : Nat}
    (split : calls = before ++ .ask token now :: after) :
    ∃ answer,
      (first.run (calls.map Call.operation)).2[before.length]? = some (.truth answer) ∧
      (second.run (calls.map Call.operation)).2[before.length]? = some (.truth answer) ∧
      (answer = true ↔ History.Revokes before (digest token) now) := by
  subst split
  rw [List.filterMap_append, List.pairwise_append] at ordered
  have reads : now ∈ (Call.ask token now :: after).filterMap Call.reading? :=
    List.mem_filterMap.mpr ⟨.ask token now, List.mem_cons_self, rfl⟩
  have past : ∀ reading ∈ before.filterMap Call.reading?, reading ≤ now := fun reading member =>
    ordered.2.2 reading member now reads
  have early : now < maxSigned := by
    apply bound now
    rw [List.filterMap_append]
    exact List.mem_append_right _ reads
  obtain ⟨answer, given, meaning⟩ := answer_in_run firstEmpty before token after early past
  obtain ⟨other, otherGiven, otherMeaning⟩ := answer_in_run secondEmpty before token after early past
  have same : other = answer := Bool.eq_iff_iff.mpr (otherMeaning.trans meaning.symm)
  exact ⟨answer, given, same ▸ otherGiven, meaning⟩

/-- A server that was just made. -/
def newServer (backing : Backing) : State :=
  let policy : Endpoint.Policy := { secret := [0x6B], sessionLifetime := 3600 }
  let setup : Server.Setup := { policy := policy, backing := backing, path := ":memory:" }
  let database : Database := { path := none, tables := Database.Tables.empty.migrate.1 }
  { setup := setup, files := {}, site := { policy := policy, stores := State.freshStores setup database } }

theorem newServer_serves (backing : Backing) : (newServer backing).site.stores.Serves [] := by
  cases backing with
  | memory => exact ⟨rfl, by decide⟩
  | database => exact ⟨rfl, by decide⟩

/-- A revocation until the largest time is found in both places, after an earlier one has ended and was
purged. -/
theorem answers_agree_largest :
    let calls : List Call := [.revoke "token" 6, .purge 7, .revoke "token" Text.Decimal.maxWord,
      .ask "other" 8, .ask "token" 9]
    (calls.filterMap Call.reading?).Pairwise (· ≤ ·) ∧
      ((newServer .memory).run (calls.map Call.operation)).2[4]? = some (.truth true) ∧
      ((newServer .database).run (calls.map Call.operation)).2[4]? = some (.truth true) := by
  intro calls
  have ordered : (calls.filterMap Call.reading?).Pairwise (· ≤ ·) := by decide
  obtain ⟨answer, inMemory, inDatabase, meaning⟩ :=
    @answers_agree (newServer .memory) (newServer .database) (newServer_serves _) (newServer_serves _) calls
      ordered (by decide) (calls.take 4) [] "token" 9 rfl
  have revoked : answer = true := meaning.mpr
    ⟨calls.take 2, "token", Text.Decimal.maxWord, [.ask "other" 8], rfl,
      fun member => Call.noConfusion (List.mem_singleton.mp member), rfl, by decide⟩
  rw [revoked] at inMemory inDatabase
  exact ⟨ordered, inMemory, inDatabase⟩

end SessionServer.Revocation
