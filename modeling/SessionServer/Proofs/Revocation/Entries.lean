import SessionServer.Proofs.Revocation.Agreement

/-!
Which entries a register has after each call to it. Recording is the only way to a new entry, and short of
a flush an entry goes away only once it has ended.
-/

namespace SessionServer.Revocation

namespace Register

/-- Whether there is an entry under a digest, ended or not. -/
def Lists (register : Register) (key : Bytes) : Prop := ∃ expiry, (key, expiry) ∈ register

theorem mem_of_mem_record {register : Register} {key : Bytes} {expiry : Nat} {entry : Bytes × Nat}
    (member : entry ∈ register.record key expiry) : entry ∈ register ∨ entry = (key, expiry) := by
  induction register with
  | nil => exact .inr (List.mem_singleton.mp member)
  | cons first rest ih =>
      rw [record] at member
      split at member
      next found =>
        rcases List.mem_cons.mp member with same | later
        · rcases Nat.le_total expiry first.2 with shorter | longer
          · rw [Nat.max_eq_left shorter, ← found] at same
            exact .inl (same ▸ List.mem_cons_self)
          · rw [Nat.max_eq_right longer] at same
            exact .inr same
        · exact .inl (List.mem_cons_of_mem _ later)
      next =>
        rcases List.mem_cons.mp member with same | later
        · exact .inl (same ▸ List.mem_cons_self)
        · exact (ih later).imp_left (List.mem_cons_of_mem _)

theorem Lists.record {register : Register} {key : Bytes} (lists : register.Lists key) (other : Bytes)
    (expiry : Nat) : (register.record other expiry).Lists key := by
  obtain ⟨time, member⟩ := lists
  induction register with
  | nil => cases member
  | cons first rest ih =>
      rw [Register.record]
      split
      next found =>
        rcases List.mem_cons.mp member with rfl | later
        · cases found
          exact ⟨_, List.mem_cons_self⟩
        · exact ⟨time, List.mem_cons_of_mem _ later⟩
      next =>
        rcases List.mem_cons.mp member with rfl | later
        · exact ⟨time, List.mem_cons_self⟩
        · obtain ⟨kept, member⟩ := ih later
          exact ⟨kept, List.mem_cons_of_mem _ member⟩

/-- If none of the entries under a digest ends after `now`, none holds. -/
theorem holds_eq_false_of_ended {register : Register} {key : Bytes} {now : Nat}
    (ended : ∀ expiry, (key, expiry) ∈ register → expiry ≤ now) : register.holds key now = false := by
  induction register with
  | nil => rfl
  | cons entry rest ih =>
      rw [holds_cons]
      split
      next same =>
        have past := ended entry.2 (same ▸ List.mem_cons_self)
        exact decide_eq_false (Nat.not_lt.mpr past)
      next => exact ih fun expiry member => ended expiry (List.mem_cons_of_mem _ member)

/-- An entry that does not hold at `now` has ended by then. -/
theorem ended_of_holds_eq_false {register : Register} {key : Bytes} {now : Nat}
    (lists : register.Lists key) (unheld : register.holds key now = false) :
    ∃ expiry, (key, expiry) ∈ register ∧ expiry ≤ now := by
  obtain ⟨time, member⟩ := lists
  induction register with
  | nil => cases member
  | cons entry rest ih =>
      rw [holds_cons] at unheld
      split at unheld
      next same =>
        exact ⟨entry.2, same ▸ List.mem_cons_self, Nat.not_lt.mp (of_decide_eq_false unheld)⟩
      next differ =>
        rcases List.mem_cons.mp member with rfl | later
        · exact absurd rfl differ
        · obtain ⟨expiry, listed, ended⟩ := ih unheld later
          exact ⟨expiry, List.mem_cons_of_mem _ listed, ended⟩

theorem Lists.drop {register : Register} {key other : Bytes} (lists : register.Lists key)
    (differ : key ≠ other) : (register.drop other).Lists key := by
  obtain ⟨expiry, member⟩ := lists
  exact ⟨expiry, List.mem_filter.mpr ⟨member, decide_eq_true differ⟩⟩

theorem expiry?_cons (entry : Bytes × Nat) (rest : Register) (key : Bytes) :
    expiry? (entry :: rest) key = if entry.1 = key then some entry.2 else expiry? rest key := by
  obtain ⟨other, time⟩ := entry
  rw [expiry?, List.lookup_cons]
  by_cases same : other = key
  · rw [same, beq_self_eq_true, if_pos rfl]
  · rw [beq_false_of_ne (Ne.symm same), if_neg same]
    rfl

theorem lists_iff {register : Register} {key : Bytes} :
    register.Lists key ↔ register.expiry? key ≠ none := by
  rw [expiry?, ne_eq, List.lookup_eq_none_iff]
  constructor
  · rintro ⟨expiry, member⟩ absent
    exact bne_iff_ne.mp (absent (key, expiry) member) rfl
  · intro present
    apply Classical.byContradiction
    intro missing
    apply present
    rintro ⟨other, expiry⟩ member
    apply bne_iff_ne.mpr
    rintro rfl
    exact missing ⟨expiry, member⟩

instance (register : Register) (key : Bytes) : Decidable (register.Lists key) :=
  decidable_of_iff _ lists_iff.symm

/-- Where no digest has two entries, an entry is found by its digest. -/
theorem Distinct.mem_iff {register : Register} (distinct : register.Distinct) {key : Bytes} {time : Nat} :
    (key, time) ∈ register ↔ register.expiry? key = some time := by
  induction register with
  | nil => simp [expiry?]
  | cons entry rest ih =>
    obtain ⟨apart, others⟩ := List.pairwise_cons.mp distinct
    rw [List.mem_cons, expiry?_cons]
    by_cases same : entry.1 = key
    · have absent : (key, time) ∉ rest := fun member => apart _ member same
      rw [if_pos same, Option.some.injEq]
      constructor
      · rintro (rfl | member)
        · rfl
        · exact absurd member absent
      · rintro rfl
        exact .inl (same ▸ rfl)
    · rw [if_neg same, ← ih others]
      constructor
      · rintro (rfl | member)
        · exact absurd rfl same
        · exact member
      · exact .inr

/-- A recorded entry ends at the later time, if there was one before it. -/
theorem expiry?_record_self (register : Register) (key : Bytes) (expiry : Nat) :
    (register.record key expiry).expiry? key = some (max ((register.expiry? key).getD 0) expiry) := by
  induction register with
  | nil => simp [record, expiry?]
  | cons entry rest ih =>
    rw [record, expiry?_cons]
    by_cases same : entry.1 = key
    · rw [if_pos same, if_pos same, expiry?_cons, if_pos rfl, Option.getD_some]
    · rw [if_neg same, if_neg same, expiry?_cons, if_neg same, ih]

theorem expiry?_record_of_ne (register : Register) {key other : Bytes} (apart : key ≠ other)
    (expiry : Nat) : (register.record key expiry).expiry? other = register.expiry? other := by
  induction register with
  | nil => rw [record, expiry?_cons, if_neg apart]
  | cons entry rest ih =>
    rw [record]
    by_cases same : entry.1 = key
    · have passed : entry.1 ≠ other := fun equal => apart (same.symm.trans equal)
      rw [if_pos same, expiry?_cons, expiry?_cons, if_neg apart, if_neg passed]
    · rw [if_neg same, expiry?_cons, expiry?_cons, ih]

/-- A purge leaves the entries that end later. -/
theorem Distinct.expiry?_live {register : Register} (distinct : register.Distinct) (now : Nat)
    (key : Bytes) :
    (register.live now).expiry? key = (register.expiry? key).filter fun time => now < time := by
  apply Option.ext
  intro time
  rw [← (distinct.live now).mem_iff, Option.filter_eq_some_iff, ← distinct.mem_iff,
    Register.live, List.mem_filter]

theorem live_append (first second : Register) (now : Nat) :
    live (first ++ second) now = live first now ++ live second now := List.filter_append first second

theorem record_of_not_lists {register : Register} {key : Bytes} (absent : ¬ register.Lists key)
    (expiry : Nat) : register.record key expiry = register ++ [(key, expiry)] := by
  induction register with
  | nil => rfl
  | cons entry rest ih =>
    have passed : entry.1 ≠ key := fun same => absent ⟨entry.2, same ▸ List.mem_cons_self⟩
    have others : ¬ Lists rest key := fun ⟨time, member⟩ => absent ⟨time, List.mem_cons_of_mem _ member⟩
    rw [record, if_neg passed, ih others, List.cons_append]

theorem length_record_of_lists {register : Register} {key : Bytes} (lists : register.Lists key)
    (expiry : Nat) : (register.record key expiry).length = register.length := by
  obtain ⟨time, member⟩ := lists
  induction register with
  | nil => cases member
  | cons entry rest ih =>
    rw [record]
    split
    next => rfl
    next passed =>
      rcases List.mem_cons.mp member with rfl | later
      · exact absurd rfl passed
      · rw [List.length_cons, List.length_cons, ih later]

end Register

/-- The register after a call to it. -/
def Call.apply (backing : Backing) (register : Register) : Call → Register
  | .revoke token expiry => backing.revoke register token expiry
  | .ask token now => (backing.isRevoked register token now).1
  | .purge now => (backing.purge register now).1
  | .flush => Register.empty

variable {backing : Backing} {register : Register} {call : Call} {key : Bytes}

theorem Call.distinct_apply (distinct : register.Distinct) : (call.apply backing register).Distinct := by
  cases call with
  | revoke token expiry => exact distinct.record _ _
  | ask token now => exact Backing.distinct_isRevoked distinct token now
  | purge now => exact distinct.live _
  | flush => exact List.Pairwise.nil

/-- A new entry comes from a revocation, and ends when the revocation says. -/
theorem Call.mem_of_mem_apply {entry : Bytes × Nat} (member : entry ∈ call.apply backing register) :
    entry ∈ register ∨ ∃ token expiry, call = .revoke token expiry ∧
      entry = (digest token, backing.kept expiry) := by
  cases call with
  | revoke token expiry =>
    exact (Register.mem_of_mem_record member).imp_right fun same => ⟨token, expiry, rfl, same⟩
  | ask token now =>
    left
    rw [apply] at member
    rcases Backing.isRevoked_eq backing register token now with same | ⟨-, dropped⟩
    · rw [same] at member
      exact member
    · rw [dropped] at member
      exact (List.mem_filter.mp member).1
  | purge now => exact .inl (List.mem_filter.mp member).1
  | flush => cases member

/-- An entry goes away by a flush, or at a time at which it has ended. -/
theorem Call.ended_of_not_lists (lists : register.Lists key)
    (gone : ¬ (call.apply backing register).Lists key) :
    call = .flush ∨ ∃ now, call.reading? = some now ∧
      ∃ expiry, (key, expiry) ∈ register ∧ expiry ≤ backing.kept now := by
  cases call with
  | revoke token expiry => exact absurd (lists.record (digest token) (backing.kept expiry)) gone
  | ask token now =>
    refine .inr ⟨now, rfl, ?_⟩
    rw [apply] at gone
    rcases Backing.isRevoked_eq backing register token now with same | ⟨unheld, dropped⟩
    · rw [same] at gone
      exact absurd lists gone
    · rw [dropped] at gone
      by_cases asked : key = digest token
      · rw [← asked] at unheld
        exact Register.ended_of_holds_eq_false lists unheld
      · exact absurd (lists.drop asked) gone
  | purge now =>
    refine .inr ⟨now, rfl, ?_⟩
    obtain ⟨expiry, member⟩ := lists
    refine ⟨expiry, member, Nat.not_lt.mp fun alive => gone ⟨expiry, ?_⟩⟩
    exact List.mem_filter.mpr ⟨member, decide_eq_true alive⟩
  | flush => exact .inl rfl

end SessionServer.Revocation
