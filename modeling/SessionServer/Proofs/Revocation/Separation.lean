import SessionServer.Proofs.Revocation.Entries

/-!
The entries under one digest apart from all others. Calls for other tokens leave them alone, and what any
call makes of them depends on nothing else.
-/

namespace SessionServer.Revocation

namespace Register

/-- The entries under a digest. -/
def under (register : Register) (key : Bytes) : Register := register.filter fun entry => entry.1 = key

theorem under_cons (entry : Bytes × Nat) (rest : Register) (key : Bytes) :
    under (entry :: rest) key = if entry.1 = key then entry :: under rest key else under rest key := by
  by_cases same : entry.1 = key
  · simp [under, same]
  · simp [under, same]

/-- What holds under a digest is told by the entries under it. -/
theorem holds_under (register : Register) (key : Bytes) (now : Nat) :
    (register.under key).holds key now = register.holds key now := by
  induction register with
  | nil => rfl
  | cons entry rest ih =>
    rw [under_cons, holds_cons]
    split
    next same => rw [holds_cons, if_pos same]
    next => exact ih

theorem under_record_self (register : Register) (key : Bytes) (expiry : Nat) :
    (register.record key expiry).under key = (register.under key).record key expiry := by
  induction register with
  | nil => simp [record, under]
  | cons entry rest ih =>
    rw [record, under_cons]
    by_cases same : entry.1 = key
    · rw [if_pos same, if_pos same, under_cons, if_pos rfl, record, if_pos same]
    · rw [if_neg same, if_neg same, under_cons, if_neg same, ih]

theorem under_record_of_ne (register : Register) {key other : Bytes} (apart : other ≠ key)
    (expiry : Nat) : (register.record other expiry).under key = register.under key := by
  induction register with
  | nil => simp [record, under, apart]
  | cons entry rest ih =>
    rw [record]
    by_cases found : entry.1 = other
    · have passed : entry.1 ≠ key := fun same => apart (found.symm.trans same)
      rw [if_pos found, under_cons, if_neg apart, under_cons, if_neg passed]
    · rw [if_neg found, under_cons, under_cons, ih]

theorem under_drop (register : Register) (key other : Bytes) :
    (register.drop other).under key = (register.under key).drop other := by
  simp only [under, drop, List.filter_filter, Bool.and_comm]

theorem under_drop_of_ne (register : Register) {key other : Bytes} (apart : other ≠ key) :
    (register.drop other).under key = register.under key := by
  rw [under_drop]
  apply List.filter_eq_self.mpr
  intro entry member
  have here : entry.1 = key := of_decide_eq_true (List.mem_filter.mp member).2
  exact decide_eq_true fun same => apart (same.symm.trans here)

theorem under_live (register : Register) (key : Bytes) (now : Nat) :
    (register.live now).under key = (register.under key).live now := by
  simp only [under, live, List.filter_filter, Bool.and_comm]

/-- Whether two registers have the same entries under a digest. -/
def SameUnder (key : Bytes) (first second : Register) : Prop := first.under key = second.under key

theorem SameUnder.refl (key : Bytes) (register : Register) : SameUnder key register register := rfl

theorem SameUnder.holds {key : Bytes} {first second : Register} (same : SameUnder key first second)
    (now : Nat) : first.holds key now = second.holds key now := by
  rw [← holds_under, same, holds_under]

end Register

namespace Call
open Register (SameUnder)

variable {backing : Backing} {call : Call} {key other : Bytes} {register first second : Register}

/-- The digest of the token that a call is for. -/
def key? : Call → Option Bytes
  | .revoke token _ | .ask token _ => some (digest token)
  | .purge _ | .flush => none

/-- A call for a token leaves the entries under all other digests. -/
theorem under_apply_of_ne (asks : call.key? = some other) (apart : other ≠ key) :
    (call.apply backing register).under key = register.under key := by
  cases call with
  | revoke token expiry =>
    cases asks
    exact Register.under_record_of_ne register apart _
  | ask token now =>
    cases asks
    rw [apply]
    rcases Backing.isRevoked_eq backing register token now with same | ⟨-, dropped⟩
    · rw [same]
    · rw [dropped]
      exact Register.under_drop_of_ne register apart
  | purge | flush => cases asks

/-- What a call makes of the entries under a digest depends on these entries alone. -/
theorem sameUnder_apply (same : SameUnder key first second) :
    SameUnder key (call.apply backing first) (call.apply backing second) := by
  unfold SameUnder at same ⊢
  cases call with
  | revoke token expiry =>
    by_cases own : digest token = key
    · simp only [apply, Backing.revoke, own, Register.under_record_self, same]
    · rw [under_apply_of_ne rfl own, under_apply_of_ne rfl own, same]
  | ask token now =>
    by_cases own : digest token = key
    · subst own
      have held : first.holds (digest token) (backing.kept now) =
          second.holds (digest token) (backing.kept now) := Register.SameUnder.holds same _
      simp only [apply, Backing.isRevoked, held]
      split
      next => exact same
      next =>
        cases backing with
        | memory => rw [Register.under_drop, same, ← Register.under_drop]
        | database => exact same
    · rw [under_apply_of_ne rfl own, under_apply_of_ne rfl own, same]
  | purge now => simp only [apply, Backing.purge, Register.under_live, same]
  | flush => rfl

end Call

end SessionServer.Revocation
