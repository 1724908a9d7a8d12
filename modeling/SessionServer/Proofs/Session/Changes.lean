import SessionServer.Proofs.Revocation.Holds
import SessionServer.Proofs.Session.Contents
import SessionServer.Session.Validator

/-!
What sessions do to the revocations that are kept. Whatever is asked of the stores changes the register
in one of few ways, and none of them takes away an entry that still holds.
-/

namespace SessionServer

namespace Revocation

/-- The ways in which a register changes at a time, short of a flush. -/
inductive Change (backing : Backing) (now : Nat) (register : Register) : Register → Prop where
  | keep : Change backing now register register
  | revoke (token : String) (expiry : Nat) :
      Change backing now register (backing.revoke register token expiry)
  | ask (token : String) : Change backing now register (backing.isRevoked register token now).1
  | purge : Change backing now register (backing.purge register now).1

theorem Change.holds {backing : Backing} {now later : Nat} {register changed : Register} {key : Bytes}
    (change : Change backing now register changed) (order : now ≤ later)
    (bound : later < Text.Decimal.maxSigned)
    (held : register.holds key (backing.kept later) = true) :
    changed.holds key (backing.kept later) = true := by
  cases change with
  | keep => exact held
  | revoke token expiry => rw [Backing.holds_revoke bound, held, Bool.true_or]
  | ask token => rw [Backing.holds_isRevoked order, held]
  | purge => exact Backing.holds_purge_of_holds order held

end Revocation

namespace Session
open Revocation (Change Register digest)

namespace Stores

/-- What may have become of the stores at a time: they are of the same kind and in the same place, and the
register that is kept has changed in one way at most. -/
structure Changes (now : Nat) (before after : Stores) : Prop where
  backing : after.backing = before.backing
  path : after.database.path = before.database.path
  entries : ∀ register, before.entries? = some register →
    ∃ changed, after.entries? = some changed ∧ Change before.backing now register changed

variable {before after : Stores} {now : Nat}

theorem Changes.refl (stores : Stores) (now : Nat) : Changes now stores stores where
  backing := rfl
  path := rfl
  entries register kept := ⟨register, kept, .keep⟩

/-- What does not concern the register changes nothing more. -/
theorem Changes.frame {other : Stores} (changes : Changes now before after)
    (backing : other.backing = after.backing) (path : other.database.path = after.database.path)
    (entries : other.entries? = after.entries?) : Changes now before other where
  backing := backing.trans changes.backing
  path := path.trans changes.path
  entries register kept := by
    rw [entries]
    exact changes.entries register kept

theorem Changes.setRegister {stores : Stores} {register changed : Register}
    (answered : stores.register = .ok register)
    (change : Change stores.backing now register changed) :
    Changes now stores (stores.setRegister changed) where
  backing := setRegister_backing stores changed
  path := setRegister_path stores changed
  entries other kept := by
    rw [(register_eq_ok_iff.mp answered).2] at kept
    cases kept
    exact ⟨changed, entries?_setRegister stores changed, change⟩

theorem revoke_changes (stores : Stores) (token : String) (expiry now : Nat) :
    Changes now stores (stores.revoke token expiry).1 := by
  by_cases writable : stores.IsWritable
  case neg =>
    obtain ⟨fault, refused⟩ := revoke_of_unwritable writable token expiry
    rw [refused]
    exact .refl stores now
  cases answered : stores.register with
  | ok register =>
    rw [revoke_of_serves ⟨answered, writable⟩]
    exact .setRegister answered (.revoke token expiry)
  | error fault =>
    simp only [revoke, answered]
    exact .refl stores now

theorem isRevoked_changes (stores : Stores) (token : String) (now : Nat) :
    Changes now stores (stores.isRevoked token now).1 := by
  cases answered : stores.register with
  | ok register =>
    rw [isRevoked_of_register answered]
    exact .setRegister answered (.ask token)
  | error fault =>
    simp only [isRevoked, answered]
    exact .refl stores now

theorem purge_changes (stores : Stores) (now : Nat) : Changes now stores (stores.purge now).1 := by
  by_cases writable : stores.IsWritable
  case neg =>
    rcases purge_of_unwritable writable now with ⟨fault, refused⟩ | idle
    · rw [refused]
      exact .refl stores now
    · rw [idle]
      exact .refl stores now
  cases answered : stores.register with
  | ok register =>
    rw [purge_of_serves ⟨answered, writable⟩]
    exact .setRegister answered .purge
  | error fault =>
    simp only [purge, answered]
    exact .refl stores now

theorem cleanUp_fst (stores : Stores) (now : Nat) : (stores.cleanUp now).1 = (stores.purge now).1 := by
  unfold cleanUp
  split <;> simp_all only

/-- A question about a principal counts at most as a question. -/
theorem principal_fst (stores : Stores) (id : Int) :
    ∃ people, (stores.principal id).1 = { stores with people := people } := by
  unfold principal
  split
  next => exact ⟨stores.people, rfl⟩
  next principals unreachable lookups =>
    split
    next => exact ⟨_, rfl⟩
    next => exact ⟨_, rfl⟩

/-- The register that is kept has an entry under a digest that still holds at a time. -/
def Keeps (stores : Stores) (key : Bytes) (later : Nat) : Prop :=
  ∃ register, stores.entries? = some register ∧
    register.holds key (stores.backing.kept later) = true

theorem Changes.keeps {key : Bytes} {later : Nat} (changes : Changes now before after)
    (order : now ≤ later) (bound : later < Text.Decimal.maxSigned) (keeps : before.Keeps key later) :
    after.Keeps key later := by
  obtain ⟨register, kept, held⟩ := keeps
  obtain ⟨changed, present, change⟩ := changes.entries register kept
  refine ⟨changed, present, ?_⟩
  rw [changes.backing]
  exact change.holds order bound held

end Stores

variable {secret : Bytes} {stores : Stores} {token : String} {now : Nat}

theorem checkNotRevoked_fst (stores : Stores) (token : String) (now : Nat) :
    (checkNotRevoked stores token now).1 = (stores.isRevoked token now).1 := by
  unfold checkNotRevoked
  split <;> simp_all only

theorem checkKnown_fst (stores : Stores) (id : Int) :
    (checkKnown stores id).1 = (stores.principal id).1 := by
  unfold checkKnown
  split <;> simp_all only

theorem validateToken_changes (secret : Bytes) (stores : Stores) (token : String) (now : Nat) :
    Stores.Changes now stores (validateToken secret stores token now).1 := by
  have asked := Stores.isRevoked_changes stores token now
  rw [← checkNotRevoked_fst] at asked
  unfold validateToken
  split
  next checked =>
    rw [checked] at asked
    exact asked
  next checkedStores checked =>
    rw [checked] at asked
    split
    next => exact asked
    next claims _ =>
      obtain ⟨people, same⟩ := Stores.principal_fst checkedStores claims.subject
      have known : Stores.Changes now stores (checkKnown checkedStores claims.subject).1 := by
        rw [checkKnown_fst, same]
        exact asked.frame rfl rfl rfl
      split
      next found =>
        rw [found] at known
        exact known
      next found =>
        rw [found] at known
        exact known

theorem validate_changes (secret : Bytes) (stores : Stores) (headers : Http.Headers) (now : Nat) :
    Stores.Changes now stores (validate secret stores headers now).1 := by
  unfold validate
  split
  next => exact .refl stores now
  next token _ => exact validateToken_changes secret stores token now

theorem recheck_fst (stores : Stores) (session : Authenticated) (now : Nat) :
    (recheck stores session now).1 = (stores.isRevoked session.token now).1 := by
  rw [← checkNotRevoked_fst]
  unfold recheck
  split <;> simp_all only

theorem recheck_changes (stores : Stores) (session : Authenticated) (now : Nat) :
    Stores.Changes now stores (recheck stores session now).1 := by
  rw [recheck_fst]
  exact Stores.isRevoked_changes stores session.token now

theorem logout_changes (secret : Bytes) (stores : Stores) (headers : Http.Headers) (now : Nat) :
    Stores.Changes now stores (logout secret stores headers now).1 := by
  unfold logout
  split
  next => exact .refl stores now
  next token _ =>
    split
    next => exact .refl stores now
    next claims _ =>
      have revoked := Stores.revoke_changes stores token claims.expiresAt now
      split
      next written =>
        rw [written] at revoked
        exact revoked
      next written =>
        rw [written] at revoked
        exact revoked

end Session

end SessionServer
