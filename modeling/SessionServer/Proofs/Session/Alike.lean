import SessionServer.Proofs.Session.Matching

/-!
Stores that cannot be told apart from a time on. Entries that have ended by then may be kept or dropped,
and questions counted or not: every answer is the same, and stays the same whatever is asked.
-/

namespace SessionServer.Revocation

/-- Whether two registers hold the same at every time from `last` on. -/
structure Register.Alike (backing : Backing) (last : Nat) (first second : Register) : Prop where
  distinct : first.Distinct
  otherDistinct : second.Distinct
  holds : ∀ key later, last ≤ later →
    first.holds key (backing.kept later) = second.holds key (backing.kept later)

namespace Register
variable {backing : Backing} {last next : Nat} {first second third : Register}

theorem alike_refl (distinct : first.Distinct) : Alike backing last first first :=
  ⟨distinct, distinct, fun _ _ _ => rfl⟩

theorem Alike.symm (alike : Alike backing last first second) : Alike backing last second first :=
  ⟨alike.otherDistinct, alike.distinct, fun key later order => (alike.holds key later order).symm⟩

theorem Alike.trans (alike : Alike backing last first second)
    (other : Alike backing last second third) : Alike backing last first third :=
  ⟨alike.distinct, other.otherDistinct,
    fun key later order => (alike.holds key later order).trans (other.holds key later order)⟩

theorem Alike.mono (alike : Alike backing last first second) (order : last ≤ next) :
    Alike backing next first second :=
  ⟨alike.distinct, alike.otherDistinct,
    fun key later after => alike.holds key later (Nat.le_trans order after)⟩

/-- A question leaves what holds from its time on. -/
theorem alike_ask (distinct : first.Distinct) {now : Nat} (past : now ≤ last) (token : String) :
    Alike backing last first (backing.isRevoked first token now).1 :=
  ⟨distinct, Backing.distinct_isRevoked distinct token now, fun key _ order =>
    (Backing.holds_isRevoked (Nat.le_trans past order) token key).symm⟩

/-- A purge leaves what holds from its time on. -/
theorem alike_purge (distinct : first.Distinct) {now : Nat} (past : now ≤ last) :
    Alike backing last first (backing.purge first now).1 :=
  ⟨distinct, distinct.live _, fun key _ order =>
    (Backing.holds_purge distinct (Nat.le_trans past order) key).symm⟩

/-- What neither revokes nor flushes leaves what holds from its time on. -/
theorem alike_apply (distinct : first.Distinct) {call : Call}
    (unwritten : ∀ token expiry, call ≠ .revoke token expiry) (unflushed : call ≠ .flush)
    (past : ∀ reading, call.reading? = some reading → reading ≤ last) :
    Alike backing last first (call.apply backing first) := by
  cases call with
  | revoke token expiry => exact absurd rfl (unwritten token expiry)
  | ask token now => exact alike_ask distinct (past now rfl) token
  | purge now => exact alike_purge distinct (past now rfl)
  | flush => exact absurd rfl unflushed

/-- The same call leaves registers alike. -/
theorem Alike.apply (alike : Alike backing last first second) {call : Call}
    (past : ∀ reading, call.reading? = some reading → reading ≤ last) :
    Alike backing last (call.apply backing first) (call.apply backing second) := by
  cases call with
  | revoke token expiry =>
    refine ⟨alike.distinct.record _ _, alike.otherDistinct.record _ _, ?_⟩
    intro key later order
    rw [Call.apply, Call.apply, Backing.revoke, Backing.revoke, holds_record, holds_record,
      alike.holds key later order]
  | ask token now =>
    have order := past now rfl
    exact ((alike_ask alike.distinct order token).symm.trans alike).trans
      (alike_ask alike.otherDistinct order token)
  | purge now =>
    have order := past now rfl
    exact ((alike_purge alike.distinct order).symm.trans alike).trans
      (alike_purge alike.otherDistinct order)
  | flush => exact alike_refl List.Pairwise.nil

/-- Whether both registers are kept and alike, or neither is kept. -/
def AlikeIfKept (backing : Backing) (last : Nat) : Option Register → Option Register → Prop :=
  Option.Rel (Alike backing last)

end Register

end SessionServer.Revocation

namespace SessionServer.Session
open Revocation (Call Register)

namespace Stores

/-- Whether every answer of two stores is the same from `last` on. -/
structure Alike (last : Nat) (first second : Stores) : Prop where
  backing : second.backing = first.backing
  unreachable : second.unreachable = first.unreachable
  database : first.database.SharesAccounts second.database
  people : second.people.uncounted = first.people.uncounted
  entries : Register.AlikeIfKept first.backing last first.entries? second.entries?

/-- Whether the register that is kept, if any, has at most one entry under each digest. -/
def IsDistinct (stores : Stores) : Prop :=
  ∀ register, stores.entries? = some register → register.Distinct

variable {last next : Nat} {first second third : Stores}

/-- Alike stores match, with registers that are alike. -/
theorem Alike.matches (alike : Alike last first second) :
    Matches (Register.Alike first.backing last) first second :=
  ⟨alike.backing, alike.unreachable, alike.database, alike.people, alike.entries⟩

theorem alike_of_matches (same : Matches (Register.Alike first.backing last) first second) :
    Alike last first second :=
  ⟨same.backing, same.unreachable, same.database, same.people, same.entries⟩

theorem alike_refl (distinct : first.IsDistinct) : Alike last first first :=
  alike_of_matches (matches_refl fun register kept => Register.alike_refl (distinct register kept))

theorem Alike.symm (alike : Alike last first second) : Alike last second first := by
  apply alike_of_matches
  rw [alike.backing]
  exact alike.matches.symm fun _ _ => Register.Alike.symm

theorem Alike.trans (alike : Alike last first second) (other : Alike last second third) :
    Alike last first third := by
  have others := other.matches
  rw [alike.backing] at others
  exact alike_of_matches (alike.matches.trans others fun _ _ _ => Register.Alike.trans)

theorem Alike.mono (alike : Alike last first second) (order : last ≤ next) :
    Alike next first second :=
  alike_of_matches (alike.matches.imp fun _ _ same => same.mono order)

theorem Alike.isDistinct (alike : Alike last first second) : first.IsDistinct := by
  intro register kept
  have entries := alike.entries
  rw [kept] at entries
  generalize second.entries? = other at entries
  cases entries with
  | some same => exact same.distinct

/-- A call to the register of one of them and the same call to that of the other keep stores alike. -/
theorem Alike.receive (alike : Alike last first second) {call : Option Call}
    (past : ∀ reading, call.bind Call.reading? = some reading → reading ≤ last) :
    Alike last (first.receive call) (second.receive call) := by
  have backing : (first.receive call).backing = first.backing := by
    obtain ⟨_, _, framed⟩ := first.receive_frame call
    rw [framed]
  apply alike_of_matches
  rw [backing]
  refine alike.matches.receive ?_
  rintro asked rfl one two same
  exact same.apply past

/-- A call that neither revokes nor flushes leaves stores alike to what they were. -/
theorem alike_receive (distinct : first.IsDistinct) {call : Option Call}
    (unwritten : ∀ token expiry, call ≠ some (.revoke token expiry)) (unflushed : call ≠ some .flush)
    (past : ∀ reading, call.bind Call.reading? = some reading → reading ≤ last) :
    Alike last first (first.receive call) := by
  apply alike_of_matches
  refine matches_receive (fun register kept => Register.alike_refl (distinct register kept)) ?_
  rintro asked register rfl kept
  refine Register.alike_apply (distinct register kept) ?_ ?_ past
  · exact fun token expiry same => unwritten token expiry (congrArg some same)
  · exact fun same => unflushed (congrArg some same)

/-- Stores stay alike when the same of them go out of reach or come into reach. -/
theorem Alike.withReach (alike : Alike last first second) (unreachable : Bool) {people others : People}
    (same : others.uncounted = people.uncounted) :
    Alike last { first with unreachable := unreachable, people := people }
      { second with unreachable := unreachable, people := others } :=
  alike_of_matches (alike.matches.withReach unreachable same)

/-- Alike registers hold the same under every digest, from the time on from which they are alike. -/
theorem Alike.agree (_ : Alike last first second) {now : Nat} (order : last ≤ now) (token : String) :
    ∀ one two, Register.Alike first.backing last one two →
      one.holds (Revocation.digest token) (first.backing.kept now) =
        two.holds (Revocation.digest token) (first.backing.kept now) :=
  fun _ _ same => same.holds _ now order

theorem Alike.isRevoked_snd (alike : Alike last first second) {now : Nat} (order : last ≤ now)
    (token : String) : (first.isRevoked token now).2 = (second.isRevoked token now).2 :=
  alike.matches.isRevoked_snd (alike.agree order token)

theorem Alike.revoke_snd (alike : Alike last first second) (token : String) (expiry : Nat) :
    (first.revoke token expiry).2 = (second.revoke token expiry).2 :=
  alike.matches.revoke_snd token expiry

end Stores

end SessionServer.Session
