import Mathlib.Data.List.Pairwise
import SessionServer.Account.Table
import SessionServer.Proofs.Text.Decimal

/-!
Which accounts there are after each change of their table. Accounts come and go but never change, and an
id stays with the account that it was first given to, also when the account is gone.
-/

namespace SessionServer.Accounts
open Text.Decimal (maxSigned IsSigned)

variable {accounts changed : Accounts} {account : Account} {id : Int}
  {email displayName passwordHash : String}

theorem create_eq_ok_iff :
    accounts.create email displayName passwordHash = .ok (changed, id) ↔
      accounts.lastId < maxSigned ∧ accounts.byEmail? email = none ∧ id = accounts.lastId + 1 ∧
        changed = { rows := accounts.rows ++ [{ id := id, email := email, displayName := displayName
                                                passwordHash := passwordHash }]
                    lastId := id } := by
  unfold create
  by_cases full : (maxSigned : Int) ≤ accounts.lastId
  · simp only [if_pos full, reduceCtorEq, Int.not_lt.mpr full, false_and]
  · rw [if_neg full]
    simp only [Int.not_le.mp full, true_and]
    cases taken : accounts.byEmail? email with
    | some other => simp
    | none =>
      simp only [Option.isSome_none, Bool.false_eq_true, if_false, Except.ok.injEq, Prod.mk.injEq,
        true_and]
      constructor
      · rintro ⟨rfl, rfl⟩
        exact ⟨rfl, rfl⟩
      · rintro ⟨rfl, rfl⟩
        exact ⟨rfl, rfl⟩

/-- A table is full before the address is looked for. -/
theorem create_eq_error_iff {refusal : Refusal} :
    accounts.create email displayName passwordHash = .error refusal ↔
      maxSigned ≤ accounts.lastId ∧ refusal = .full ∨
        accounts.lastId < maxSigned ∧ (accounts.byEmail? email).isSome = true ∧
          refusal = .emailTaken := by
  unfold create
  split
  next full =>
    simp only [full, Int.not_lt.mpr full, true_and, false_and, or_false, Except.error.injEq]
    exact eq_comm
  next room =>
    simp only [room, Int.not_le.mp room, true_and, false_and, false_or]
    split
    next taken =>
      simp only [taken, true_and, Except.error.injEq]
      exact eq_comm
    next free => simp only [free, reduceCtorEq, false_and]

/-- The ways in which the table changes. Only the account that is named is deleted. -/
inductive Change (deleted : Option Int) (accounts : Accounts) : Accounts → Prop where
  | keep : Change deleted accounts accounts
  | create {email displayName passwordHash : String} {changed : Accounts} {id : Int}
      (created : accounts.create email displayName passwordHash = .ok (changed, id)) :
      Change deleted accounts changed
  | delete {id : Int} (named : deleted = some id) : Change deleted accounts (accounts.delete id).1

/-- What holds of every table that was built by such changes: ids are signed words, none is above the last
one that was given, and neither an id nor an address has two accounts. -/
structure IsSound (accounts : Accounts) : Prop where
  ids_signed : ∀ account ∈ accounts.rows, IsSigned account.id
  lastId_signed : IsSigned accounts.lastId
  ids_le : ∀ account ∈ accounts.rows, account.id ≤ accounts.lastId
  ids_distinct : accounts.rows.Pairwise fun first second => first.id ≠ second.id
  emails_distinct : accounts.rows.Pairwise fun first second =>
    Mailbox.same first.email second.email = false

theorem isSound_empty : empty.IsSound where
  ids_signed _ member := nomatch member
  lastId_signed := by decide
  ids_le _ member := nomatch member
  ids_distinct := .nil
  emails_distinct := .nil

theorem IsSound.change {deleted : Option Int} (sound : accounts.IsSound)
    (change : Change deleted accounts changed) : changed.IsSound := by
  cases change with
  | keep => exact sound
  | create created =>
    obtain ⟨room, free, rfl, rfl⟩ := create_eq_ok_iff.mp created
    have others := List.find?_eq_none.mp free
    have next : IsSigned (accounts.lastId + 1) := by
      have last := sound.lastId_signed
      unfold IsSigned at last ⊢
      omega
    refine ⟨?_, next, ?_, ?_, ?_⟩
    · intro account member
      rcases List.mem_append.mp member with before | new
      · exact sound.ids_signed account before
      · cases List.mem_singleton.mp new
        exact next
    · intro account member
      rcases List.mem_append.mp member with before | new
      · have bound := sound.ids_le account before
        show account.id ≤ accounts.lastId + 1
        omega
      · cases List.mem_singleton.mp new
        exact Int.le_refl _
    · refine List.pairwise_append.mpr ⟨sound.ids_distinct, List.pairwise_singleton _ _, ?_⟩
      intro account member new isNew
      have bound := sound.ids_le account member
      rw [List.mem_singleton.mp isNew]
      show account.id ≠ accounts.lastId + 1
      omega
    · refine List.pairwise_append.mpr ⟨sound.emails_distinct, List.pairwise_singleton _ _, ?_⟩
      intro account member new isNew
      rw [List.mem_singleton.mp isNew]
      exact Bool.eq_false_iff.mpr (others account member)
  | delete named =>
    refine ⟨?_, sound.lastId_signed, ?_, sound.ids_distinct.filter _, sound.emails_distinct.filter _⟩
    · intro account member
      exact sound.ids_signed account (List.mem_filter.mp member).1
    · intro account member
      exact sound.ids_le account (List.mem_filter.mp member).1

theorem IsSound.eq_of_id (sound : accounts.IsSound) {other : Account}
    (member : account ∈ accounts.rows) (otherMember : other ∈ accounts.rows)
    (same : other.id = account.id) : other = account := by
  have symm : Std.Symm fun first second : Account => first.id ≠ second.id := ⟨fun _ _ => Ne.symm⟩
  by_contra differ
  exact sound.ids_distinct.forall otherMember member differ same

theorem IsSound.eq_of_email (sound : accounts.IsSound) {other : Account}
    (member : account ∈ accounts.rows) (otherMember : other ∈ accounts.rows)
    (same : Mailbox.same other.email account.email = true) : other = account := by
  have symm : Std.Symm fun first second : Account =>
      Mailbox.same first.email second.email = false :=
    ⟨fun first second apart => (Mailbox.same_comm second.email first.email).trans apart⟩
  by_contra differ
  rw [sound.emails_distinct.forall otherMember member differ] at same
  cases same

theorem byId?_eq_some (found : accounts.byId? id = some account) :
    account ∈ accounts.rows ∧ account.id = id := by
  rw [Accounts.byId?] at found
  have named := List.find?_some found
  exact ⟨List.mem_of_find?_eq_some found, of_decide_eq_true named⟩

theorem byEmail?_eq_some (found : accounts.byEmail? email = some account) :
    account ∈ accounts.rows ∧ Mailbox.same account.email email = true := by
  rw [Accounts.byEmail?] at found
  have named := List.find?_some found
  exact ⟨List.mem_of_find?_eq_some found, named⟩

theorem IsSound.byId? (sound : accounts.IsSound) (member : account ∈ accounts.rows) :
    accounts.byId? account.id = some account := by
  cases found : accounts.byId? account.id with
  | none => exact absurd (decide_eq_true rfl) (List.find?_eq_none.mp found account member)
  | some other =>
    obtain ⟨otherMember, same⟩ := byId?_eq_some found
    rw [sound.eq_of_id member otherMember same]

/-- A new account is found by its id, and the others as before. -/
theorem IsSound.byId?_create (sound : accounts.IsSound)
    (created : accounts.create email displayName passwordHash = .ok (changed, id)) :
    changed.byId? = Function.update accounts.byId? id
      (some { id := id, email := email, displayName := displayName, passwordHash := passwordHash }) := by
  obtain ⟨-, -, rfl, rfl⟩ := create_eq_ok_iff.mp created
  funext other
  show (accounts.rows ++ [_]).find? _ = _
  rw [List.find?_append, List.find?_singleton, Function.update_apply]
  by_cases same : other = accounts.lastId + 1
  · have unused : accounts.rows.find? (·.id = other) = none := by
      refine List.find?_eq_none.mpr ?_
      intro account member named
      have bound := sound.ids_le account member
      have named : account.id = other := of_decide_eq_true named
      omega
    rw [if_pos same, unused, same]
    simp
  · rw [if_neg same, if_neg (by simpa using Ne.symm same), Option.or_none]
    rfl

/-- A deleted account is not found by its id, and the others are found as before. -/
theorem byId?_delete (accounts : Accounts) (id : Int) :
    (accounts.delete id).1.byId? = Function.update accounts.byId? id none := by
  funext other
  show (accounts.rows.filter _).find? _ = _
  rw [List.find?_filter, Function.update_apply]
  by_cases same : other = id
  · rw [if_pos same, same]
    refine List.find?_eq_none.mpr ?_
    intro account _ both
    simp at both
  · rw [if_neg same, Accounts.byId?]
    congr 1
    funext account
    by_cases named : account.id = other
    · simp [named, same]
    · simp [named]

/-- An account is found by every address that names the same mailbox. -/
theorem IsSound.byEmail? (sound : accounts.IsSound) (member : account ∈ accounts.rows)
    (same : Mailbox.same account.email email = true) : accounts.byEmail? email = some account := by
  cases found : accounts.byEmail? email with
  | none => exact absurd same (List.find?_eq_none.mp found account member)
  | some other =>
    obtain ⟨otherMember, named⟩ := byEmail?_eq_some found
    rw [Mailbox.same_comm] at same
    rw [sound.eq_of_email member otherMember (Mailbox.same_trans named same)]

/-- An account stays until it is deleted by its id. -/
theorem Change.mem {deleted : Option Int} (change : Change deleted accounts changed)
    (spared : deleted ≠ some account.id) (member : account ∈ accounts.rows) :
    account ∈ changed.rows := by
  cases change with
  | keep => exact member
  | create created =>
    obtain ⟨-, -, -, rfl⟩ := create_eq_ok_iff.mp created
    exact List.mem_append_left _ member
  | delete named =>
    refine List.mem_filter.mpr ⟨member, decide_eq_true fun same => spared ?_⟩
    rw [named, same]

/-- Whether the id of an account is taken, and by no other account. -/
structure Reserves (accounts : Accounts) (account : Account) : Prop where
  id_le : account.id ≤ accounts.lastId
  only : ∀ other ∈ accounts.rows, other.id = account.id → other = account

theorem IsSound.reserves (sound : accounts.IsSound) (member : account ∈ accounts.rows) :
    accounts.Reserves account where
  id_le := sound.ids_le account member
  only _ otherMember same := sound.eq_of_id member otherMember same

/-- Once taken, the id of an account is given to no other one, whatever is created or deleted. -/
theorem Reserves.change {deleted : Option Int} (reserves : accounts.Reserves account)
    (change : Change deleted accounts changed) : changed.Reserves account := by
  cases change with
  | keep => exact reserves
  | create created =>
    obtain ⟨-, -, rfl, rfl⟩ := create_eq_ok_iff.mp created
    have bound := reserves.id_le
    refine ⟨show account.id ≤ accounts.lastId + 1 by omega, ?_⟩
    intro other member same
    rcases List.mem_append.mp member with before | new
    · exact reserves.only other before same
    · rw [List.mem_singleton.mp new] at same
      have next : accounts.lastId + 1 = account.id := same
      omega
  | delete named =>
    refine ⟨reserves.id_le, ?_⟩
    intro other member same
    exact reserves.only other (List.mem_filter.mp member).1 same

/-- Whether the id of an account is taken, and the account is gone. -/
structure Retired (accounts : Accounts) (id : Int) : Prop where
  id_le : id ≤ accounts.lastId
  gone : ∀ other ∈ accounts.rows, other.id ≠ id

theorem Reserves.retired_delete (reserves : accounts.Reserves account) :
    (accounts.delete account.id).1.Retired account.id where
  id_le := reserves.id_le
  gone _ member := of_decide_eq_true (List.mem_filter.mp member).2

theorem Retired.change {deleted : Option Int} (retired : accounts.Retired id)
    (change : Change deleted accounts changed) : changed.Retired id := by
  cases change with
  | keep => exact retired
  | create created =>
    obtain ⟨-, -, rfl, rfl⟩ := create_eq_ok_iff.mp created
    have bound := retired.id_le
    refine ⟨show id ≤ accounts.lastId + 1 by omega, ?_⟩
    intro other member
    rcases List.mem_append.mp member with before | new
    · exact retired.gone other before
    · rw [List.mem_singleton.mp new]
      show accounts.lastId + 1 ≠ id
      omega
  | delete named =>
    exact ⟨retired.id_le, fun other member => retired.gone other (List.mem_filter.mp member).1⟩

theorem Retired.byId? (retired : accounts.Retired id) : accounts.byId? id = none :=
  List.find?_eq_none.mpr fun other member same =>
    retired.gone other member (of_decide_eq_true same)

end SessionServer.Accounts
