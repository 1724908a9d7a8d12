import SessionServer.Proofs.Revocation.Entries
import Mathlib.Data.List.Induction

/-!
What a register owes to the revocations and purges that it was given, in whatever order its clients sent
them. No digest has two entries; each entry ends as late as any revocation since it was made says; and every
entry that was ever made is still there, or was counted by one purge.
-/

namespace SessionServer.Revocation
open Server (State Operation Outcome)
open Session (Stores)
open Text.Decimal (maxSigned)

/-- What writes into a register that is never flushed. -/
inductive Write where
  | revoke (token : String) (expiry : Nat)
  | purge (now : Nat)
  deriving DecidableEq

namespace Write

def call : Write → Call
  | .revoke token expiry => .revoke token expiry
  | .purge now => .purge now

def operation (write : Write) : Operation := write.call.operation

/-- The token that is revoked, and until when. -/
def revoked? : Write → Option (String × Nat)
  | .revoke token expiry => some (token, expiry)
  | .purge _ => none

/-- How many entries a register drops at a write. -/
def dropped (backing : Backing) (register : Register) : Write → Nat
  | .revoke _ _ => 0
  | .purge now => register.countP fun entry => entry.2 ≤ backing.kept now

end Write

/-- Whether a server has a register after writes to it. -/
def Keeps (start : State) (writes : List Write) (register : Register) : Prop :=
  (start.run (writes.map Write.operation)).1.site.stores.register = .ok register

/-- Whether there is an entry under a digest after writes. -/
def Listed (start : State) (writes : List Write) (key : Bytes) : Prop :=
  ∃ register, Keeps start writes register ∧ register.Lists key

/-- Whether a revocation between other writes made an entry that has not been dropped since. -/
structure Enters (start : State) (earlier : List Write) (token : String) (expiry : Nat)
    (later : List Write) : Prop where
  absent : ¬ Listed start earlier (digest token)
  since : ∀ done, done <+: later → Listed start (earlier ++ .revoke token expiry :: done) (digest token)

/-- The revocations among writes. -/
def revocations (writes : List Write) : List (String × Nat) := writes.filterMap Write.revoked?

/-- The times until which tokens with a digest were revoked, as they are kept. -/
def expiries (backing : Backing) (key : Bytes) (writes : List Write) : List Nat :=
  ((revocations writes).filter fun revoked => digest revoked.1 = key).map fun revoked =>
    backing.kept revoked.2

/-- Whether a write makes an entry where there was none. -/
def Write.makesEntry (state : State) : Write → Bool
  | .revoke token _ =>
      match state.site.stores.register with
      | .ok register => ¬ register.Lists (digest token)
      | .error _ => false
  | .purge _ => false

/-- How many entries are made by writes. -/
def entriesMade (state : State) : List Write → Nat
  | [] => 0
  | write :: rest =>
      (if write.makesEntry state then 1 else 0) + entriesMade (state.step write.operation).1 rest

/-- How many entries were dropped by the purges with these outcomes. -/
def purged : List Outcome → Nat
  | [] => 0
  | .count number :: rest => number + purged rest
  | _ :: rest => purged rest

/-- The register that is left by writes, if it was empty before them. -/
def ledger (backing : Backing) (writes : List Write) : Register :=
  writes.foldl (fun register write => write.call.apply backing register) Register.empty

variable {backing : Backing} {state start : State} {register : Register} {writes : List Write} {key : Bytes}

/-! ## One write -/

theorem Write.outcome_count (serves : state.site.stores.Serves register) (write : Write) :
    purged [(state.step write.operation).2] = write.dropped state.site.stores.backing register := by
  cases write with
  | revoke token expiry =>
    show purged [Operation.outcome .storeFault (fun _ => .done) (Stores.revoke _ token expiry).2] = 0
    rw [Stores.revoke_of_serves serves]
    rfl
  | purge now =>
    show purged [Operation.outcome .storeFault .count (Stores.purge _ now).2] = _
    rw [Stores.purge_of_serves serves, dropped, List.countP_eq_length_filter]
    rfl

theorem Write.step_stores (serves : state.site.stores.Serves register) (write : Write) :
    (state.step write.operation).1.site.stores =
      state.site.stores.setRegister (write.call.apply state.site.stores.backing register) := by
  cases write with
  | revoke token expiry =>
    show (Stores.revoke _ token expiry).1 = _
    rw [Stores.revoke_of_serves serves]
    rfl
  | purge now =>
    show (Stores.purge _ now).1 = _
    rw [Stores.purge_of_serves serves]
    rfl

/-- After a write the register is there, where it was before. -/
theorem Write.serves_step (serves : state.site.stores.Serves register) (write : Write) :
    (state.step write.operation).1.site.stores.Serves
        (write.call.apply state.site.stores.backing register) ∧
      (state.step write.operation).1.site.stores.backing = state.site.stores.backing := by
  rw [write.step_stores serves]
  exact ⟨serves.setRegister _, Stores.setRegister_backing _ _⟩

/-- An entry that is made is one more, and a purge counts what it drops. -/
theorem Write.balance (serves : state.site.stores.Serves register) (write : Write) :
    (if write.makesEntry state then 1 else 0) + register.length =
      (write.call.apply state.site.stores.backing register).length +
        write.dropped state.site.stores.backing register := by
  cases write with
  | revoke token expiry =>
    simp only [makesEntry, serves.answered, call, Call.apply, Backing.revoke, dropped]
    by_cases lists : register.Lists (digest token)
    · rw [Register.length_record_of_lists lists]
      simp [lists]
    · rw [Register.record_of_not_lists lists]
      simp [lists, Nat.add_comm]
  | purge now =>
    have split := register.live_length_add_endedCount (state.site.stores.backing.kept now)
    rw [Register.endedCount, ← List.countP_eq_length_filter] at split
    show 0 + register.length = (register.live _).length + register.countP _
    omega

/-! ## A run of writes -/

theorem ledger_concat (writes : List Write) (write : Write) :
    ledger backing (writes ++ [write]) = write.call.apply backing (ledger backing writes) := by
  rw [ledger, List.foldl_append]
  rfl

theorem distinct_ledger (writes : List Write) : (ledger backing writes).Distinct := by
  induction writes using List.reverseRecOn with
  | nil => exact List.Pairwise.nil
  | append_singleton earlier write ih =>
    rw [ledger_concat]
    exact Call.distinct_apply ih

theorem purged_cons (outcome : Outcome) (rest : List Outcome) :
    purged (outcome :: rest) = purged [outcome] + purged rest := by
  cases outcome <;> simp [purged]

/-- Each write does to the register what its call does, one after the other. -/
theorem serves_run (serves : state.site.stores.Serves register) (writes : List Write) :
    let after := (state.run (writes.map Write.operation)).1.site.stores
    after.Serves (writes.foldl
        (fun register write => write.call.apply state.site.stores.backing register) register) ∧
      after.backing = state.site.stores.backing := by
  induction writes generalizing state register with
  | nil => exact ⟨serves, rfl⟩
  | cons write rest ih =>
    obtain ⟨after, same⟩ := write.serves_step serves
    rw [← same] at after
    have others := ih after
    rw [same] at others
    exact others

/-- Every entry that was there or was made is still there, or was counted by a purge. -/
theorem conservation (serves : state.site.stores.Serves register) (writes : List Write) :
    ∃ left, Keeps state writes left ∧
      entriesMade state writes + register.length =
        left.length + purged (state.run (writes.map Write.operation)).2 := by
  induction writes generalizing state register with
  | nil => exact ⟨register, serves.answered, by simp [entriesMade, purged, State.run]⟩
  | cons write rest ih =>
    obtain ⟨after, -⟩ := write.serves_step serves
    obtain ⟨left, kept, others⟩ := ih after
    refine ⟨left, kept, ?_⟩
    have first := write.balance serves
    have counted := write.outcome_count serves
    rw [List.map_cons, State.run_cons, purged_cons, entriesMade]
    omega

section Empty

variable (empty : start.site.stores.Serves [])
include empty

theorem keeps_iff : Keeps start writes register ↔ register = ledger start.site.stores.backing writes := by
  rw [Keeps, (serves_run empty writes).1.answered, Except.ok.injEq]
  exact eq_comm

theorem listed_iff :
    Listed start writes key ↔ (ledger start.site.stores.backing writes).expiry? key ≠ none := by
  rw [← Register.lists_iff]
  constructor
  · rintro ⟨register, kept, lists⟩
    exact (keeps_iff empty).mp kept ▸ lists
  · intro lists
    exact ⟨_, (keeps_iff empty).mpr rfl, lists⟩

end Empty

/-! ## The entry under one digest -/

theorem expiry?_revoke (writes : List Write) (token : String) (expiry : Nat) :
    (ledger backing (writes ++ [.revoke token expiry])).expiry? key =
      if digest token = key then
        some (max (((ledger backing writes).expiry? key).getD 0) (backing.kept expiry))
      else (ledger backing writes).expiry? key := by
  rw [ledger_concat]
  show ((ledger backing writes).record (digest token) (backing.kept expiry)).expiry? key = _
  split
  next same => rw [same, Register.expiry?_record_self]
  next apart => rw [Register.expiry?_record_of_ne _ apart]

theorem expiry?_purge (writes : List Write) (now : Nat) :
    (ledger backing (writes ++ [.purge now])).expiry? key =
      ((ledger backing writes).expiry? key).filter fun time => backing.kept now < time := by
  rw [ledger_concat]
  exact (distinct_ledger writes).expiry?_live (backing.kept now) key

theorem max?_concat (times : List Nat) (time : Nat) :
    (times ++ [time]).max? = some (max (times.max?.getD 0) time) := by
  cases latest : times.max? with
  | none =>
    rw [List.max?_eq_none_iff.mp latest]
    simp
  | some other =>
    obtain ⟨member, most⟩ := List.max?_eq_some_iff.mp latest
    apply List.max?_eq_some_iff.mpr
    rw [Option.getD_some]
    constructor
    · rcases Nat.le_total other time with order | order
      · simp [Nat.max_eq_right order]
      · simp [Nat.max_eq_left order, member]
    · intro each among
      rcases List.mem_append.mp among with earlier | last
      · exact Nat.le_trans (most each earlier) (Nat.le_max_left other time)
      · rw [List.mem_singleton.mp last]
        exact Nat.le_max_right other time

theorem expiries_append (backing : Backing) (key : Bytes) (first second : List Write) :
    expiries backing key (first ++ second) =
      expiries backing key first ++ expiries backing key second := by
  simp only [expiries, revocations, List.filterMap_append, List.filter_append, List.map_append]

theorem expiries_revoke (backing : Backing) (key : Bytes) (token : String) (expiry : Nat) :
    expiries backing key [.revoke token expiry] =
      if digest token = key then [backing.kept expiry] else [] := by
  by_cases same : digest token = key
  · simp [expiries, revocations, Write.revoked?, same]
  · simp [expiries, revocations, Write.revoked?, same]

/-- One more revocation keeps an entry at the latest time of those that count. -/
theorem expiry?_concat_revoke {recent : List Write}
    (latest : (ledger backing writes).expiry? key = (expiries backing key recent).max?)
    (token : String) (expiry : Nat) :
    (ledger backing (writes ++ [.revoke token expiry])).expiry? key =
      (expiries backing key (recent ++ [.revoke token expiry])).max? := by
  rw [expiry?_revoke, expiries_append, expiries_revoke, latest]
  split
  next => rw [max?_concat]
  next => rw [List.append_nil]

/-- A purge leaves an entry as it is, or drops it. -/
theorem expiry?_concat_purge {now : Nat}
    (left : (ledger backing (writes ++ [.purge now])).expiry? key ≠ none) :
    (ledger backing (writes ++ [.purge now])).expiry? key = (ledger backing writes).expiry? key := by
  rw [expiry?_purge] at left ⊢
  cases present : (ledger backing writes).expiry? key with
  | none => rfl
  | some time =>
    rw [present] at left
    rw [Option.filter_some] at left ⊢
    split
    next => rfl
    next ended => exact absurd (if_neg ended) left

section Empty

variable (empty : start.site.stores.Serves [])
include empty

/-- An entry ends at the latest time of the revocations since it was made. -/
theorem expiry?_of_enters {earlier later : List Write} {token : String} {expiry : Nat}
    (enters : Enters start earlier token expiry later) :
    let backing := start.site.stores.backing
    (ledger backing (earlier ++ .revoke token expiry :: later)).expiry? (digest token) =
      (expiries backing (digest token) (.revoke token expiry :: later)).max? := by
  intro backing
  obtain ⟨absent, since⟩ := enters
  -- A purge among the later writes cannot have dropped the entry, which is listed after each of them.
  induction later using List.reverseRecOn with
  | nil =>
    rw [listed_iff empty, Classical.not_not] at absent
    exact @expiry?_concat_revoke _ _ _ [] absent token expiry
  | append_singleton middle last ih =>
    have before := ih fun done front => since done (front.trans (List.prefix_append middle [last]))
    have now := (listed_iff empty).mp (since _ (List.prefix_refl _))
    rw [← List.cons_append, ← List.append_assoc] at now ⊢
    cases last with
    | revoke other time => exact expiry?_concat_revoke before other time
    | purge time =>
      rw [expiry?_concat_purge now, before, expiries_append]
      exact congrArg List.max? (List.append_nil _).symm

/-- An entry that is there was made by a revocation, and has been there since. -/
theorem exists_enters (listed : Listed start writes key) :
    ∃ earlier token expiry later, writes = earlier ++ .revoke token expiry :: later ∧
      digest token = key ∧ Enters start earlier token expiry later := by
  induction writes using List.reverseRecOn with
  | nil => exact absurd rfl ((listed_iff empty).mp listed)
  | append_singleton before last ih =>
    -- The last write made the entry, or left the one that was there before it.
    by_cases present : Listed start before key
    · obtain ⟨earlier, token, expiry, later, rfl, same, absent, since⟩ := ih present
      rw [List.append_assoc, List.cons_append] at listed ⊢
      refine ⟨earlier, token, expiry, later ++ [last], rfl, same, absent, ?_⟩
      intro done front
      rcases List.prefix_concat_iff.mp front with rfl | front
      · exact same ▸ listed
      · exact since done front
    · have missing := Classical.not_not.mp (mt (listed_iff empty).mpr present)
      have now := (listed_iff empty).mp listed
      cases last with
      | revoke token expiry =>
        have same : digest token = key := by
          apply Classical.byContradiction
          intro apart
          rw [expiry?_revoke, if_neg apart] at now
          exact now missing
        refine ⟨before, token, expiry, [], rfl, same, same ▸ present, ?_⟩
        intro done front
        rw [List.prefix_nil.mp front, same]
        exact listed
      | purge time =>
        rw [expiry?_concat_purge now] at now
        exact absurd missing now

/-- The entries of a register, by the revocations that made them. -/
theorem mem_iff (kept : Keeps start writes register) {time : Nat} :
    (key, time) ∈ register ↔
      ∃ earlier token expiry later, writes = earlier ++ .revoke token expiry :: later ∧
        digest token = key ∧ Enters start earlier token expiry later ∧
        (expiries start.site.stores.backing key (.revoke token expiry :: later)).max? = some time := by
  rw [keeps_iff empty] at kept
  rw [kept, (distinct_ledger writes).mem_iff]
  constructor
  · intro found
    have listed : Listed start writes key := by
      rw [listed_iff empty, found]
      exact Option.some_ne_none time
    obtain ⟨earlier, token, expiry, later, rfl, rfl, enters⟩ := exists_enters empty listed
    have latest := (expiry?_of_enters empty enters).symm.trans found
    exact ⟨earlier, token, expiry, later, rfl, rfl, enters, latest⟩
  · rintro ⟨earlier, token, expiry, later, rfl, rfl, enters, latest⟩
    exact (expiry?_of_enters empty enters).trans latest

/-- A purge drops the entries that have ended, and tells how many there were. -/
theorem purge_drops (kept : Keeps start writes register) (now : Nat) :
    let backing := start.site.stores.backing
    ∃ left, Keeps start (writes ++ [.purge now]) left ∧
      (∀ entry, entry ∈ left ↔ entry ∈ register ∧ backing.kept now < entry.2) ∧
      (start.run ((writes ++ [Write.purge now]).map Write.operation)).2[writes.length]? =
        some (.count (register.countP fun entry => entry.2 ≤ backing.kept now)) := by
  intro backing
  have whole := (keeps_iff empty).mp kept
  refine ⟨register.live (backing.kept now), ?_, ?_, ?_⟩
  · rw [keeps_iff empty, ledger_concat, whole]
    rfl
  · intro entry
    rw [Register.live, List.mem_filter, decide_eq_true_eq]
  · have outcome := State.run_getElem? start (writes.map Write.operation) (Operation.purge now) []
    rw [List.length_map] at outcome
    rw [List.map_append]
    apply outcome.trans
    show some (Operation.outcome .storeFault .count (Stores.purge _ now).2) = _
    obtain ⟨serves, same⟩ := serves_run empty writes
    rw [Stores.purge_of_serves ⟨kept, serves.writable⟩, same, List.countP_eq_length_filter]
    rfl

end Empty

theorem step_size (answered : state.site.stores.register = .ok register) :
    (state.step .size).2 = .count register.length := by
  show Operation.outcome .storeFault .count (Stores.size _) = _
  rw [Stores.size, answered]
  rfl

/-! ## Revocations in any order -/

/-- Revocations of tokens until times, one after the other. -/
def revokeAll (revocations : List (String × Nat)) : List Write :=
  revocations.map fun revoked => .revoke revoked.1 revoked.2

theorem revocations_revokeAll (calls : List (String × Nat)) : revocations (revokeAll calls) = calls := by
  rw [revocations, revokeAll, List.filterMap_map]
  exact List.filterMap_some

theorem expiries_revokeAll (revocations : List (String × Nat)) :
    expiries backing key (revokeAll revocations) =
      (revocations.filter fun revoked => digest revoked.1 = key).map fun revoked =>
        backing.kept revoked.2 := by
  rw [expiries, revocations_revokeAll]

/-- Revocations alone leave each digest with its latest time. -/
theorem expiry?_revokeAll (revocations : List (String × Nat)) :
    (ledger backing (revokeAll revocations)).expiry? key =
      (expiries backing key (revokeAll revocations)).max? := by
  induction revocations using List.reverseRecOn with
  | nil => rfl
  | append_singleton earlier last ih =>
    rw [revokeAll, List.map_append]
    exact expiry?_concat_revoke ih last.1 last.2

/-- What revocations leave does not depend on their order, nor on how often each of them was made. -/
theorem perm_of_revocations {first second : List (String × Nat)}
    (same : ∀ revoked, revoked ∈ first ↔ revoked ∈ second) :
    (ledger backing (revokeAll first)).Perm (ledger backing (revokeAll second)) := by
  have nodup (writes : List Write) : (ledger backing writes).Nodup :=
    (distinct_ledger writes).imp fun apart equal => apart (congrArg Prod.fst equal)
  apply (List.perm_ext_iff_of_nodup (nodup _) (nodup _)).mpr
  rintro ⟨key, time⟩
  have times (time : Nat) : time ∈ expiries backing key (revokeAll first) ↔
      time ∈ expiries backing key (revokeAll second) := by
    simp only [expiries_revokeAll, List.mem_map, List.mem_filter, same]
  rw [(distinct_ledger _).mem_iff, (distinct_ledger _).mem_iff, expiry?_revokeAll, expiry?_revokeAll,
    List.max?_eq_some_iff, List.max?_eq_some_iff]
  simp only [times]

/-! ## Tokens that are revoked once -/

/-- Whether no two revocations are for tokens with the same digest. -/
def RevokesOnce (writes : List Write) : Prop :=
  (revocations writes).Pairwise fun first second => digest first.1 ≠ digest second.1

theorem revocations_concat_revoke (writes : List Write) (token : String) (expiry : Nat) :
    revocations (writes ++ [.revoke token expiry]) = revocations writes ++ [(token, expiry)] := by
  rw [revocations, List.filterMap_append]
  rfl

theorem revocations_concat_purge (writes : List Write) (now : Nat) :
    revocations (writes ++ [.purge now]) = revocations writes := by
  rw [revocations, List.filterMap_append]
  exact List.append_nil _

theorem exists_of_lists (lists : (ledger backing writes).Lists key) :
    ∃ revoked ∈ revocations writes, digest revoked.1 = key := by
  induction writes using List.reverseRecOn with
  | nil =>
    obtain ⟨time, member⟩ := lists
    cases member
  | append_singleton earlier last ih =>
    rw [revocations, List.filterMap_append]
    obtain ⟨time, member⟩ := lists
    rw [ledger_concat] at member
    rcases Call.mem_of_mem_apply member with before | ⟨token, expiry, revokes, entry⟩
    · obtain ⟨revoked, among, same⟩ := ih ⟨time, before⟩
      exact ⟨revoked, List.mem_append_left _ among, same⟩
    · cases last with
      | revoke =>
        cases revokes
        have same := (congrArg Prod.fst entry).symm
        exact ⟨(token, expiry), List.mem_append_right _ List.mem_cons_self, same⟩
      | purge now => cases revokes

/-- What is revoked once has no entry before. -/
theorem not_lists_of_revokesOnce {token : String} {expiry : Nat}
    (once : RevokesOnce (writes ++ [.revoke token expiry])) :
    ¬ (ledger backing writes).Lists (digest token) := by
  intro lists
  obtain ⟨revoked, among, same⟩ := exists_of_lists lists
  rw [RevokesOnce, revocations_concat_revoke, List.pairwise_append] at once
  exact once.2.2 revoked among (token, expiry) List.mem_cons_self same

theorem RevokesOnce.of_append {first second : List Write} (once : RevokesOnce (first ++ second)) :
    RevokesOnce first := by
  rw [RevokesOnce, revocations, List.filterMap_append, List.pairwise_append] at once
  exact once.1

/-- That times are cut off in the database is not seen at a time that can be kept there. -/
theorem kept_lt_kept_iff_of_database {now : Nat} (bound : backing = .database → now < maxSigned) (expiry : Nat) :
    backing.kept now < backing.kept expiry ↔ now < expiry := by
  cases backing with
  | memory => exact Iff.rfl
  | database => exact Backing.kept_lt_kept_iff (bound rfl) expiry

/-- Where each token is revoked once and purges are made at one time alone, the entries that end later are
those of the revocations that last longer. -/
theorem length_live_ledger {now : Nat} (once : RevokesOnce writes)
    (timed : ∀ time, .purge time ∈ writes → time = now)
    (bound : backing = .database → now < maxSigned) :
    ((ledger backing writes).live (backing.kept now)).length =
      (revocations writes).countP fun revoked => now < revoked.2 := by
  induction writes using List.reverseRecOn with
  | nil => rfl
  | append_singleton earlier last ih =>
    have before := ih once.of_append fun time member => timed time (List.mem_append_left _ member)
    rw [ledger_concat]
    cases last with
    | revoke token expiry =>
      show (((ledger backing earlier).record (digest token) (backing.kept expiry)).live _).length = _
      have single : (Register.live [(digest token, backing.kept expiry)] (backing.kept now)).length =
          [(token, expiry)].countP fun revoked => now < revoked.2 := by
        rw [Register.live, ← List.countP_eq_length_filter, List.countP_singleton, List.countP_singleton]
        simp only [kept_lt_kept_iff_of_database bound expiry]
      rw [Register.record_of_not_lists (not_lists_of_revokesOnce once), Register.live_append,
        List.length_append, before, single, revocations_concat_revoke, List.countP_append]
    | purge time =>
      cases timed time (List.mem_append_right _ List.mem_cons_self)
      show (((ledger backing earlier).live _).live _).length = _
      rw [revocations_concat_purge, ← before, Register.live, Register.live, List.filter_filter]
      simp only [Bool.and_self]

theorem entriesMade_append (state : State) (first second : List Write) :
    entriesMade state (first ++ second) = entriesMade state first +
      entriesMade (state.run (first.map Write.operation)).1 second := by
  induction first generalizing state with
  | nil => simp [entriesMade, State.run]
  | cons write rest ih =>
    rw [List.cons_append, entriesMade, entriesMade, ih, List.map_cons, State.run_cons, Nat.add_assoc]

/-- Each of the revocations makes an entry. -/
theorem entriesMade_of_revokesOnce (empty : start.site.stores.Serves [])
    (once : RevokesOnce writes) : entriesMade start writes = (revocations writes).length := by
  induction writes using List.reverseRecOn with
  | nil => rfl
  | append_singleton earlier last ih =>
    rw [entriesMade_append, ih once.of_append]
    cases last with
    | revoke token expiry =>
      have absent := @not_lists_of_revokesOnce start.site.stores.backing _ _ _ once
      have answered := (keeps_iff empty).mpr (Eq.refl (ledger start.site.stores.backing earlier))
      have makes : (Write.revoke token expiry).makesEntry
          (start.run (earlier.map Write.operation)).1 = true := by
        unfold Keeps at answered
        simp only [Write.makesEntry, answered, absent, not_false_eq_true, decide_true]
      rw [revocations_concat_revoke, List.length_append, entriesMade, makes]
      rfl
    | purge time => rw [revocations_concat_purge]; rfl

/-- Where each token is revoked once and all purges are made at one time, the purges count the tokens that
have ended by then, and the others are left. -/
theorem counts_of_revokesOnce {now : Nat} (empty : start.site.stores.Serves [])
    (once : RevokesOnce writes) (timed : ∀ time, .purge time ∈ writes → time = now)
    (bound : start.site.stores.backing = .database → now < maxSigned) :
    let after := start.run ((writes ++ [Write.purge now]).map Write.operation)
    purged after.2 = (revocations writes).countP (fun revoked => revoked.2 ≤ now) ∧
      (after.1.step .size).2 = .count ((revocations writes).countP fun revoked => now < revoked.2) := by
  have onceMore : RevokesOnce (writes ++ [.purge now]) := by
    rw [RevokesOnce, revocations_concat_purge]
    exact once
  obtain ⟨left, kept, balance⟩ := conservation empty (writes ++ [.purge now])
  have lasting : left.length = (revocations writes).countP fun revoked => now < revoked.2 := by
    rw [(keeps_iff empty).mp kept, ledger_concat]
    exact length_live_ledger once timed bound
  have made : entriesMade start (writes ++ [.purge now]) = (revocations writes).length := by
    rw [entriesMade_of_revokesOnce empty onceMore, revocations_concat_purge]
  have split : (revocations writes).length =
      (revocations writes).countP (fun revoked => now < revoked.2) +
        (revocations writes).countP fun revoked => revoked.2 ≤ now := by
    rw [List.length_eq_countP_add_countP fun revoked : String × Nat => decide (now < revoked.2)]
    simp only [decide_eq_true_eq, Nat.not_lt]
  intro after
  constructor
  · rw [made, lasting, List.length_nil] at balance
    show purged (start.run _).2 = _
    omega
  · rw [← lasting]
    exact step_size kept

/-- No revocation is lost, duplicated or miscounted, wherever the register is kept. After any writes no digest
has two entries, and an entry ends at the latest time of the revocations since it was made. A purge drops the
entries that have ended and tells their number. The entries that were ever made are those that are left and
those that purges told. What revocations alone leave depends on neither their order nor their repetition;
and where clients revoke each token once and purge at one time, the purges tell the number of the tokens that
have ended by then, and the others are left, however the calls of the clients follow one another. -/
theorem every_revocation_counted {start : State} (empty : start.site.stores.Serves []) :
    let backing := start.site.stores.backing
    (∀ writes, ∃ register, Keeps start writes register ∧ register.Distinct ∧
      (∀ key time, (key, time) ∈ register ↔
        ∃ earlier token expiry later, writes = earlier ++ .revoke token expiry :: later ∧
          digest token = key ∧ Enters start earlier token expiry later ∧
          (expiries backing key (.revoke token expiry :: later)).max? = some time) ∧
      (∀ now, ∃ left, Keeps start (writes ++ [.purge now]) left ∧
        (∀ entry, entry ∈ left ↔ entry ∈ register ∧ backing.kept now < entry.2) ∧
        (start.run ((writes ++ [Write.purge now]).map Write.operation)).2[writes.length]? =
          some (.count (register.countP fun entry => entry.2 ≤ backing.kept now))) ∧
      ((start.run (writes.map Write.operation)).1.step .size).2 = .count register.length ∧
      entriesMade start writes =
        register.length + purged (start.run (writes.map Write.operation)).2) ∧
    (∀ first second, (∀ revoked, revoked ∈ first ↔ revoked ∈ second) →
      ∃ register other, Keeps start (revokeAll first) register ∧ Keeps start (revokeAll second) other ∧
        register.Perm other) ∧
    ∀ (clients : List (List Write)) (now : Nat), RevokesOnce clients.flatten →
      (∀ time, .purge time ∈ clients.flatten → time = now) →
      (backing = .database → now < maxSigned) → ∀ writes, writes.Perm clients.flatten →
        let after := start.run ((writes ++ [Write.purge now]).map Write.operation)
        purged after.2 = (revocations clients.flatten).countP (fun revoked => revoked.2 ≤ now) ∧
          (after.1.step .size).2 =
            .count ((revocations clients.flatten).countP fun revoked => now < revoked.2) := by
  intro backing
  refine ⟨?entries, ?order, ?counts⟩
  case entries =>
    intro writes
    obtain ⟨register, kept, balance⟩ := conservation empty writes
    refine ⟨register, kept, ?_, fun key time => mem_iff empty kept, purge_drops empty kept, step_size kept,
      balance⟩
    rw [(keeps_iff empty).mp kept]
    exact distinct_ledger writes
  case order =>
    intro first second same
    exact ⟨_, _, (keeps_iff empty).mpr rfl, (keeps_iff empty).mpr rfl, perm_of_revocations same⟩
  case counts =>
    intro clients now once timed bound writes interleaved
    have sameRevocations := interleaved.filterMap Write.revoked?
    have apart : RevokesOnce writes :=
      (sameRevocations.pairwise_iff fun differ => Ne.symm differ).mpr once
    have counts := counts_of_revokesOnce empty apart
      (fun time member => timed time (interleaved.mem_iff.mp member)) bound
    rw [revocations, sameRevocations.countP_eq, sameRevocations.countP_eq] at counts
    exact counts

/-- Two clients revoke three tokens and purge at the time at which the second one ends; in memory and in the
database two entries are counted, and one is left. -/
theorem every_revocation_counted_two_clients :
    let writes : List Write := [.revoke "second" 7, .revoke "first" 5, .purge 7, .revoke "third" 8, .purge 7]
    let inMemory := (newServer .memory).run ((writes ++ [Write.purge 7]).map Write.operation)
    let inDatabase := (newServer .database).run ((writes ++ [Write.purge 7]).map Write.operation)
    (purged inMemory.2 = 2 ∧ (inMemory.1.step .size).2 = .count 1) ∧
      purged inDatabase.2 = 2 ∧ (inDatabase.1.step .size).2 = .count 1 := by
  intro writes inMemory inDatabase
  let clients : List (List Write) :=
    [[.revoke "first" 5, .purge 7], [.revoke "second" 7, .revoke "third" 8, .purge 7]]
  have once : RevokesOnce clients.flatten := by
    unfold RevokesOnce
    decide +kernel
  have timed : ∀ time, .purge time ∈ clients.flatten → time = 7 := by
    intro time member
    simpa [clients] using member
  have interleaved : writes.Perm clients.flatten := by decide
  have memory := (@every_revocation_counted (newServer .memory) (newServer_serves _)).2.2 clients 7 once timed
    (fun inDatabase => Backing.noConfusion inDatabase) writes interleaved
  have database := (@every_revocation_counted (newServer .database) (newServer_serves _)).2.2 clients 7 once timed
    (fun _ => by decide) writes interleaved
  exact ⟨memory, database⟩

end SessionServer.Revocation
