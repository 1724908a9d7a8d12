import SessionServer.Revocation.Backing

/-!
Which entries of a register hold after each of its changes. An entry only gets longer by being recorded
again, and neither a drop nor a purge that comes in time takes away one that still holds.
-/

namespace SessionServer.Revocation

namespace Register

theorem holds_cons (entry : Bytes × Nat) (rest : Register) (key : Bytes) (now : Nat) :
    holds (entry :: rest) key now =
      if entry.1 = key then decide (now < entry.2) else holds rest key now := by
  obtain ⟨other, expiry⟩ := entry
  simp only [holds, expiry?, List.lookup_cons]
  by_cases same : other = key
  · simp only [same, beq_self_eq_true, if_true]
  · have differ : (key == other) = false := beq_false_of_ne (Ne.symm same)
    simp only [same, differ, if_false]

/-- Recording an entry adds to what holds under its own digest, and to nothing else. -/
theorem holds_record (register : Register) (key other : Bytes) (expiry now : Nat) :
    (register.record key expiry).holds other now =
      (register.holds other now || (decide (key = other) && decide (now < expiry))) := by
  induction register with
  | nil =>
      rw [record, holds_cons]
      by_cases same : key = other
      · simp [same, holds, expiry?]
      · simp [same, holds, expiry?]
  | cons entry rest ih =>
      rw [record]
      by_cases found : entry.1 = key
      · rw [if_pos found, holds_cons, holds_cons, found]
        by_cases same : key = other
        · have either : now < max entry.2 expiry ↔ now < entry.2 ∨ now < expiry := by omega
          simp [same, either]
        · simp [same]
      · rw [if_neg found, holds_cons, holds_cons, ih]
        by_cases passed : entry.1 = other
        · have differ : key ≠ other := fun same => found (passed.trans same.symm)
          simp [passed, differ]
        · simp [passed]

theorem drop_cons (entry : Bytes × Nat) (rest : Register) (key : Bytes) :
    drop (entry :: rest) key = if entry.1 = key then drop rest key else entry :: drop rest key := by
  by_cases same : entry.1 = key
  · simp [drop, same]
  · simp [drop, same]

theorem live_cons (entry : Bytes × Nat) (rest : Register) (now : Nat) :
    live (entry :: rest) now = if now < entry.2 then entry :: live rest now else live rest now := by
  by_cases alive : now < entry.2
  · simp [live, alive]
  · simp [live, alive]

theorem holds_drop (register : Register) (key other : Bytes) (now : Nat) :
    (register.drop key).holds other now = (decide (other ≠ key) && register.holds other now) := by
  induction register with
  | nil => simp [drop, holds, expiry?]
  | cons entry rest ih =>
      by_cases dropped : entry.1 = key
      · rw [drop_cons, if_pos dropped, ih, holds_cons, dropped]
        by_cases same : key = other
        · simp [same]
        · simp [same]
      · rw [drop_cons, if_neg dropped, holds_cons, holds_cons, ih]
        by_cases same : entry.1 = other
        · have differ : other ≠ key := fun equal => dropped (same.trans equal)
          simp [same, differ]
        · simp [same]

/-- An entry that holds later holds before. -/
theorem holds_of_le {register : Register} {key : Bytes} {now later : Nat} (order : now ≤ later)
    (held : register.holds key later = true) : register.holds key now = true := by
  unfold holds at held ⊢
  split at held
  next expiry found =>
    rw [decide_eq_true_eq] at held ⊢
    exact Nat.lt_of_le_of_lt order held
  next => cases held

/-- A purge keeps every entry that holds at its time or later. -/
theorem holds_live_of_holds {register : Register} {key : Bytes} {now later : Nat}
    (order : now ≤ later) (held : register.holds key later = true) :
    (register.live now).holds key later = true := by
  induction register with
  | nil => exact held
  | cons entry rest ih =>
      rw [holds_cons] at held
      by_cases same : entry.1 = key
      · rw [if_pos same] at held
        have alive : now < entry.2 := Nat.lt_of_le_of_lt order (of_decide_eq_true held)
        rw [live_cons, if_pos alive, holds_cons, if_pos same]
        exact held
      · rw [if_neg same] at held
        by_cases alive : now < entry.2
        · rw [live_cons, if_pos alive, holds_cons, if_neg same]
          exact ih held
        · rw [live_cons, if_neg alive]
          exact ih held

/-- No digest has two entries. -/
def Distinct (register : Register) : Prop :=
  register.Pairwise fun first second => first.1 ≠ second.1

theorem key_of_mem_record {register : Register} {key : Bytes} {expiry : Nat}
    {entry : Bytes × Nat} (member : entry ∈ register.record key expiry) :
    entry.1 = key ∨ entry ∈ register := by
  induction register with
  | nil =>
      rw [record, List.mem_singleton] at member
      exact .inl (congrArg Prod.fst member)
  | cons first rest ih =>
      rw [record] at member
      split at member
      next found =>
        rcases List.mem_cons.mp member with same | later
        · exact .inl (congrArg Prod.fst same)
        · exact .inr (List.mem_cons_of_mem _ later)
      next =>
        rcases List.mem_cons.mp member with same | later
        · exact .inr (same ▸ List.mem_cons_self)
        · exact (ih later).imp_right (List.mem_cons_of_mem _)

theorem Distinct.record {register : Register} (distinct : register.Distinct) (key : Bytes)
    (expiry : Nat) : (register.record key expiry).Distinct := by
  induction register with
  | nil => exact List.pairwise_singleton _ _
  | cons first rest ih =>
      obtain ⟨apart, others⟩ := List.pairwise_cons.mp distinct
      rw [Register.record]
      split
      next found =>
        refine List.pairwise_cons.mpr ⟨?_, others⟩
        intro entry member
        exact found ▸ apart entry member
      next passed =>
        refine List.pairwise_cons.mpr ⟨?_, ih others⟩
        intro entry member
        rcases key_of_mem_record member with same | later
        · exact fun equal => passed (equal.trans same)
        · exact apart entry later

theorem Distinct.drop {register : Register} (distinct : register.Distinct) (key : Bytes) :
    (register.drop key).Distinct := List.Pairwise.filter _ distinct

theorem Distinct.live {register : Register} (distinct : register.Distinct) (now : Nat) :
    (register.live now).Distinct := List.Pairwise.filter _ distinct

theorem holds_eq_false_of_not_mem {register : Register} {key : Bytes}
    (absent : ∀ entry ∈ register, entry.1 ≠ key) (now : Nat) : register.holds key now = false := by
  induction register with
  | nil => rfl
  | cons entry rest ih =>
      rw [holds_cons, if_neg (absent entry List.mem_cons_self)]
      exact ih fun other member => absent other (List.mem_cons_of_mem _ member)

/-- What is dropped once it has ended is not missed by a purge. -/
theorem Distinct.live_drop {register : Register} (distinct : register.Distinct) {key : Bytes} {now : Nat}
    (ended : register.holds key now = false) : (register.drop key).live now = register.live now := by
  induction register with
  | nil => rfl
  | cons entry rest ih =>
      obtain ⟨apart, others⟩ := List.pairwise_cons.mp distinct
      rw [holds_cons] at ended
      by_cases same : entry.1 = key
      · have absent : ∀ other ∈ rest, other.1 ≠ key := fun other member equal =>
          apart other member (same.trans equal.symm)
        rw [if_pos same] at ended
        rw [drop_cons, if_pos same, live_cons, if_neg (of_decide_eq_false ended)]
        exact ih others (holds_eq_false_of_not_mem absent now)
      · rw [if_neg same] at ended
        rw [drop_cons, if_neg same, live_cons, live_cons, ih others ended]

/-- A purge changes nothing of what holds at its time or later. -/
theorem Distinct.holds_live {register : Register} (distinct : register.Distinct) {now later : Nat}
    (order : now ≤ later) (key : Bytes) :
    (register.live now).holds key later = register.holds key later := by
  cases held : register.holds key later with
  | true => exact holds_live_of_holds order held
  | false =>
    induction register with
    | nil => rfl
    | cons entry rest ih =>
      obtain ⟨apart, others⟩ := List.pairwise_cons.mp distinct
      rw [holds_cons] at held
      by_cases same : entry.1 = key
      · have absent : ∀ other ∈ rest, other.1 ≠ key := fun other member equal =>
          apart other member (same.trans equal.symm)
        by_cases alive : now < entry.2
        · rw [live_cons, if_pos alive, holds_cons, if_pos same, ← held,
            if_pos same]
        · rw [live_cons, if_neg alive]
          exact ih others (holds_eq_false_of_not_mem absent later)
      · rw [if_neg same] at held
        have kept := ih others held
        by_cases alive : now < entry.2
        · rw [live_cons, if_pos alive, holds_cons, if_neg same]
          exact kept
        · rw [live_cons, if_neg alive]
          exact kept

end Register

namespace Backing
open Text.Decimal (maxSigned)

variable {backing : Backing} {register : Register} {now later : Nat}

theorem kept_le_kept (order : now ≤ later) : backing.kept now ≤ backing.kept later := by
  cases backing with
  | memory => exact order
  | database =>
      simp only [kept]
      omega

/-- That times are cut off is not seen in comparisons with a time that can be kept as it is. -/
theorem kept_lt_kept_iff (bound : now < maxSigned) (expiry : Nat) :
    backing.kept now < backing.kept expiry ↔ now < expiry := by
  cases backing with
  | memory => exact Iff.rfl
  | database =>
      simp only [kept]
      omega

theorem holds_revoke (bound : now < maxSigned) (token : String) (expiry : Nat) (key : Bytes) :
    (backing.revoke register token expiry).holds key (backing.kept now) =
      (register.holds key (backing.kept now) ||
        (decide (digest token = key) && decide (now < expiry))) := by
  rw [revoke, Register.holds_record]
  simp only [kept_lt_kept_iff bound]

/-- A question leaves the register as it is, or drops an entry that does not hold any more. -/
theorem isRevoked_eq (backing : Backing) (register : Register) (token : String) (now : Nat) :
    backing.isRevoked register token now = (register, register.holds (digest token) (backing.kept now)) ∨
      register.holds (digest token) (backing.kept now) = false ∧
        backing.isRevoked register token now = (register.drop (digest token), false) := by
  cases held : register.holds (digest token) (backing.kept now) with
  | true => exact .inl (by simp only [isRevoked, held, if_true])
  | false =>
    cases backing with
    | memory => exact .inr ⟨rfl, by simp only [isRevoked, held, Bool.false_eq_true, if_false]⟩
    | database => exact .inl (by simp only [isRevoked, held, Bool.false_eq_true, if_false])

/-- The answer to a question is what the register holds. -/
theorem isRevoked_snd (backing : Backing) (register : Register) (token : String) (now : Nat) :
    (backing.isRevoked register token now).2 =
      register.holds (digest token) (backing.kept now) := by
  rcases isRevoked_eq backing register token now with same | ⟨ended, dropped⟩
  · rw [same]
  · rw [dropped, ended]

theorem holds_isRevoked (order : now ≤ later) (token : String) (key : Bytes) :
    (backing.isRevoked register token now).1.holds key (backing.kept later) =
      register.holds key (backing.kept later) := by
  rcases isRevoked_eq backing register token now with same | ⟨before, dropped⟩
  · rw [same]
  · rw [dropped, Register.holds_drop]
    by_cases same : key = digest token
    · have ended : register.holds (digest token) (backing.kept later) = false :=
        Bool.eq_false_iff.mpr fun held =>
          Bool.eq_false_iff.mp before (Register.holds_of_le (kept_le_kept order) held)
      rw [same, ended, Bool.and_false]
    · simp only [ne_eq, same, not_false_eq_true, decide_true, Bool.true_and]

theorem isRevoked_fst_database (register : Register) (token : String) (now : Nat) :
    (database.isRevoked register token now).1 = register := by
  simp only [isRevoked]
  split
  next => rfl
  next => rfl

theorem sublist_isRevoked (backing : Backing) (register : Register) (token : String) (now : Nat) :
    (backing.isRevoked register token now).1.Sublist register := by
  rcases isRevoked_eq backing register token now with same | ⟨-, dropped⟩
  · exact same.symm ▸ List.Sublist.refl register
  · rw [dropped]
    exact List.filter_sublist

/-- A question drops nothing that has not ended. -/
theorem live_isRevoked (distinct : register.Distinct) (token : String) (now : Nat) :
    (backing.isRevoked register token now).1.live (backing.kept now) = register.live (backing.kept now) := by
  rcases isRevoked_eq backing register token now with same | ⟨ended, dropped⟩
  · rw [same]
  · rw [dropped]
    exact distinct.live_drop ended

theorem distinct_isRevoked (distinct : register.Distinct) (token : String) (now : Nat) :
    (backing.isRevoked register token now).1.Distinct := by
  rcases isRevoked_eq backing register token now with same | ⟨-, dropped⟩
  · rw [same]
    exact distinct
  · rw [dropped]
    exact distinct.drop _

theorem holds_purge_of_holds (order : now ≤ later) {key : Bytes}
    (held : register.holds key (backing.kept later) = true) :
    (backing.purge register now).1.holds key (backing.kept later) = true :=
  Register.holds_live_of_holds (kept_le_kept order) held

theorem holds_purge (distinct : register.Distinct) (order : now ≤ later) (key : Bytes) :
    (backing.purge register now).1.holds key (backing.kept later) =
      register.holds key (backing.kept later) :=
  distinct.holds_live (kept_le_kept order) key

end Backing

end SessionServer.Revocation
