import SessionServer.Proofs.Limit.Address

/-!
What a limiter grants. It grants a client exactly as many requests as its burst, and what other clients ask
for makes no difference.
-/

namespace SessionServer.Limit.Limiter

variable {limiter : Limiter} {client : Client} {burst : Nat} {asked : List Client}

theorem lookup_spend (spent : List (String × Nat)) (key other : String) :
    (spend spent key).lookup other =
      if other = key then some ((spent.lookup key).getD 0 + 1) else spent.lookup other := by
  induction spent with
  | nil =>
    rw [spend, List.lookup_cons, List.lookup_nil, List.lookup_nil, beq_eq_decide]
    by_cases same : other = key
    · simp [same]
    · simp [same]
  | cons entry rest ih =>
    rw [spend, List.lookup_cons, List.lookup_cons, beq_eq_decide, beq_eq_decide]
    by_cases found : entry.1 = key
    · rw [if_pos found, List.lookup_cons, beq_eq_decide, found]
      by_cases same : other = key
      · simp [same]
      · simp [same]
    · rw [if_neg found, List.lookup_cons, beq_eq_decide, ih]
      by_cases here : other = entry.1
      · simp [here, found]
      · simp [here, Ne.symm found]

@[simp] theorem burst_grant (limiter : Limiter) (client : Client) :
    (limiter.grant client).1.burst = limiter.burst := by
  unfold grant
  split
  next => rfl
  next => rfl

theorem granted_iff : (limiter.grant client).2 = true ↔ limiter.spentBy client < limiter.burst := by
  unfold grant
  split
  next left => exact iff_of_true rfl left
  next spent => exact iff_of_false Bool.false_ne_true spent

/-- A request that is granted is spent by the client who asks, and by nobody else. -/
theorem spentBy_grant (limiter : Limiter) (client other : Client) :
    (limiter.grant client).1.spentBy other =
      if other = client ∧ limiter.spentBy client < limiter.burst then limiter.spentBy client + 1
      else limiter.spentBy other := by
  unfold grant
  by_cases left : limiter.spentBy client < limiter.burst
  · rw [if_pos left]
    by_cases same : other = client
    · rw [same, if_pos ⟨rfl, left⟩, spentBy, lookup_spend, if_pos rfl]
      rfl
    · rw [if_neg fun both => same both.1, spentBy, lookup_spend,
        if_neg fun shared => same (Client.key_injective shared)]
      rfl
  · rw [if_neg left, if_neg fun both => left both.2]

/-- A request that is refused costs nothing. -/
theorem grant_fst_of_refused (refused : (limiter.grant client).2 = false) :
    (limiter.grant client).1 = limiter := by
  unfold grant at refused ⊢
  split at refused
  next => cases refused
  next spent => rw [if_neg spent]

/-- What a limiter of so many requests is after these clients have asked, in this order. -/
structure Counts (limiter : Limiter) (burst : Nat) (asked : List Client) : Prop where
  limit : limiter.burst = burst
  spent : ∀ client, limiter.spentBy client = min (asked.count client) burst

theorem counts_nil (burst : Nat) : Counts { burst := burst } burst [] := by
  refine ⟨rfl, ?_⟩
  intro client
  rw [List.count_nil, Nat.zero_min]
  rfl

namespace Counts
variable (counts : Counts limiter burst asked)
include counts

/-- A client is granted a request exactly if it has asked for less than the burst. -/
theorem granted_iff : (limiter.grant client).2 = true ↔ asked.count client < burst := by
  rw [Limiter.granted_iff, counts.spent, counts.limit]
  omega

theorem grant (client : Client) : Counts (limiter.grant client).1 burst (asked ++ [client]) := by
  refine ⟨(burst_grant limiter client).trans counts.limit, ?_⟩
  intro other
  rw [spentBy_grant, counts.limit, counts.spent, counts.spent, List.count_append]
  by_cases same : other = client
  · rw [same, List.count_singleton_self]
    split
    next left => omega
    next spent =>
      have reached : ¬ min (asked.count client) burst < burst := fun left => spent ⟨rfl, left⟩
      omega
  · rw [if_neg fun both => same both.1, List.count_singleton]
    simp [Ne.symm same]

end Counts

end SessionServer.Limit.Limiter
