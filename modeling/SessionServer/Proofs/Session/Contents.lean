import SessionServer.Session.Stores

/-!
What the stores keep, and what each question to them writes. A register that is out of reach, or whose
database is closed, is still kept; one that cannot be written to answers questions, and stays as it is.
-/

namespace SessionServer

theorem Database.revokedTokens_eq_ok_iff {database : Database} {table : Database.RevokedTokens} :
    database.revokedTokens = .ok table ↔
      database.isClosed = false ∧ database.tables.revokedTokens = some table := by
  unfold Database.revokedTokens
  cases closed : database.isClosed with
  | true => simp
  | false =>
    cases present : database.tables.revokedTokens with
    | none => simp
    | some other => simp

namespace Database

/-- Whether two databases are kept in the same place, and can be written to alike. -/
structure IsBeside (first second : Database) : Prop where
  path : second.path = first.path
  writeFault : second.writeFault = first.writeFault

theorem IsBeside.trans {first second third : Database} (beside : first.IsBeside second)
    (other : second.IsBeside third) : first.IsBeside third :=
  ⟨other.path.trans beside.path, other.writeFault.trans beside.writeFault⟩

theorem refusal?_of_writable {database : Database} (writable : database.writeFault = none) (writes : Bool) :
    database.refusal? writes = none := by
  simp only [refusal?, writable]

/-- What is to be written is refused exactly if the database cannot be written to. -/
theorem refusal?_true (database : Database) : database.refusal? true = database.writeFault := by
  unfold refusal?
  split
  next unwritable => exact unwritable.symm
  next unwritable => exact unwritable.symm
  next writable => exact writable.symm

/-- A statement is refused and writes nothing, or it ends with its result. -/
theorem conclude_cases {σ ε α : Type} (refusal : Option ε) (before : σ) (result : σ × Except ε α) :
    (∃ fault, conclude refusal before result = (before, .error fault)) ∨
      conclude refusal before result = result := by
  cases refusal with
  | some fault => exact .inl ⟨fault, rfl⟩
  | none => exact .inr rfl

end Database

namespace Session.Stores
open Revocation (Register)

/-- The register as it is kept, in reach or not; nothing if its table is missing. -/
def entries? (stores : Stores) : Option Register :=
  match stores.backing with
  | .memory => some stores.memory
  | .database => stores.database.tables.revokedTokens.map Database.RevokedTokens.register

/-- Whether the register can be asked, as far as its connections go. -/
def Reached (stores : Stores) : Prop :=
  stores.unreachable = false ∧ (stores.backing = .database → stores.database.isClosed = false)

/-- Whether the register can be written to. -/
def IsWritable (stores : Stores) : Prop :=
  stores.backing = .database → stores.database.writeFault = none

instance (stores : Stores) : Decidable stores.IsWritable := inferInstanceAs (Decidable (_ → _))

/-- Whether the register can be asked and written to, and what is in it. -/
structure Serves (stores : Stores) (register : Register) : Prop where
  answered : stores.register = .ok register
  writable : stores.IsWritable

variable {stores : Stores} {register : Register}

theorem refusal?_of_isWritable (writable : stores.IsWritable) (writes : Bool) :
    stores.refusal? writes = none := by
  unfold refusal?
  split
  next => rfl
  next inDatabase => rw [Database.refusal?_of_writable (writable inDatabase), Option.map_none]

/-- What is to be written into a register that cannot be written to is refused. -/
theorem exists_refusal?_of_unwritable (unwritable : ¬ stores.IsWritable) :
    ∃ fault, stores.refusal? true = some fault := by
  obtain ⟨inDatabase, faulty⟩ := Classical.not_imp.mp unwritable
  obtain ⟨fault, failing⟩ := Option.ne_none_iff_exists'.mp faulty
  refine ⟨.database fault, ?_⟩
  simp only [refusal?, inDatabase, Database.refusal?_true, failing, Option.map_some]

/-- A register that answers is the one that is kept. -/
theorem register_eq_ok_iff :
    stores.register = .ok register ↔ stores.Reached ∧ stores.entries? = some register := by
  unfold Stores.register Reached entries?
  cases stores.unreachable with
  | true => simp
  | false =>
    cases kept : stores.backing with
    | memory => simp [contents, kept]
    | database =>
      cases found : stores.database.revokedTokens with
      | ok table =>
        obtain ⟨isOpen, present⟩ := Database.revokedTokens_eq_ok_iff.mp found
        simp [contents, kept, found, isOpen, present]
      | error error =>
        have missing (table : Database.RevokedTokens) : ¬ (stores.database.isClosed = false ∧
            stores.database.tables.revokedTokens = some table) := fun present => by
          rw [Database.revokedTokens_eq_ok_iff.mpr present] at found
          cases found
        simp only [contents, kept, found, Bool.false_eq_true, if_false, reduceCtorEq, false_iff]
        rintro ⟨⟨-, isOpen⟩, present⟩
        obtain ⟨table, there, -⟩ := Option.map_eq_some_iff.mp present
        exact missing table ⟨isOpen trivial, there⟩

@[simp] theorem setRegister_backing (stores : Stores) (register : Register) :
    (stores.setRegister register).backing = stores.backing := by
  unfold setRegister
  split <;> rfl

@[simp] theorem setRegister_path (stores : Stores) (register : Register) :
    (stores.setRegister register).database.path = stores.database.path := by
  unfold setRegister
  split <;> rfl

@[simp] theorem reached_setRegister (stores : Stores) (register : Register) :
    (stores.setRegister register).Reached ↔ stores.Reached := by
  unfold setRegister
  split
  next inMemory => simp only [Reached, inMemory]
  next inDatabase => simp only [Reached, inDatabase, Database.setRegister]

@[simp] theorem isWritable_setRegister (stores : Stores) (register : Register) :
    (stores.setRegister register).IsWritable ↔ stores.IsWritable := by
  unfold setRegister
  split
  next => exact Iff.rfl
  next => exact Iff.rfl

@[simp] theorem entries?_setRegister (stores : Stores) (register : Register) :
    (stores.setRegister register).entries? = some register := by
  unfold setRegister
  split
  next inMemory => simp only [entries?, inMemory]
  next inDatabase => simp only [entries?, inDatabase, Database.setRegister, Option.map_some]

/-- A question that is answered was put to a register in reach. -/
theorem register_of_isRevoked {token : String} {now : Nat} {revoked : Bool}
    (asked : (stores.isRevoked token now).2 = .ok revoked) :
    ∃ register, stores.register = .ok register := by
  cases answered : stores.register with
  | ok register => exact ⟨register, rfl⟩
  | error fault =>
    rw [isRevoked, answered] at asked
    cases asked

section Answered
variable (answered : stores.register = .ok register)
include answered

/-- A register in reach stays in reach when it is written. -/
theorem register_setRegister (changed : Register) :
    (stores.setRegister changed).register = .ok changed := by
  refine register_eq_ok_iff.mpr ⟨?_, entries?_setRegister stores changed⟩
  exact (reached_setRegister stores changed).mpr (register_eq_ok_iff.mp answered).1

/-- Writing what is there changes nothing. -/
theorem setRegister_of_register : stores.setRegister register = stores := by
  have kept := (register_eq_ok_iff.mp answered).2
  rcases stores with
    ⟨backing, memory, unreachable, ⟨path, ⟨version, accounts, revokedTokens⟩, isClosed, writeFault⟩, people⟩
  cases backing with
  | memory =>
    cases kept
    rfl
  | database =>
    obtain ⟨table, there, rfl⟩ := Option.map_eq_some_iff.mp kept
    cases there
    rfl

theorem isRevoked_of_register (token : String) (now : Nat) :
    stores.isRevoked token now =
      (stores.setRegister (stores.backing.isRevoked register token now).1,
        .ok (stores.backing.isRevoked register token now).2) := by
  simp only [isRevoked, answered]

end Answered

section Serves
variable (serves : stores.Serves register)
include serves

theorem Serves.setRegister (changed : Register) : (stores.setRegister changed).Serves changed where
  answered := register_setRegister serves.answered changed
  writable := (isWritable_setRegister stores changed).mpr serves.writable

theorem revoke_of_serves (token : String) (expiry : Nat) :
    stores.revoke token expiry =
      (stores.setRegister (stores.backing.revoke register token expiry), .ok ()) := by
  simp only [revoke, serves.answered, refusal?_of_isWritable serves.writable, Database.conclude]

theorem purge_of_serves (now : Nat) :
    stores.purge now =
      (stores.setRegister (stores.backing.purge register now).1,
        .ok (stores.backing.purge register now).2) := by
  simp only [purge, serves.answered, refusal?_of_isWritable serves.writable, Database.conclude]

theorem flush_of_serves : stores.flush = (stores.setRegister Register.empty, .ok ()) := by
  simp only [flush, serves.answered, refusal?_of_isWritable serves.writable, Database.conclude]

end Serves

section Unwritable
variable (unwritable : ¬ stores.IsWritable)
include unwritable

theorem revoke_of_unwritable (token : String) (expiry : Nat) :
    ∃ fault, stores.revoke token expiry = (stores, .error fault) := by
  obtain ⟨fault, refused⟩ := exists_refusal?_of_unwritable unwritable
  unfold revoke
  split
  next failed _ => exact ⟨failed, rfl⟩
  next => exact ⟨fault, by rw [refused, Database.conclude]⟩

theorem flush_of_unwritable : ∃ fault, stores.flush = (stores, .error fault) := by
  obtain ⟨fault, refused⟩ := exists_refusal?_of_unwritable unwritable
  unfold flush
  split
  next failed _ => exact ⟨failed, rfl⟩
  next => exact ⟨fault, by rw [refused, Database.conclude]⟩

/-- A purge of a register that cannot be written to is refused, or it finds nothing to drop. -/
theorem purge_of_unwritable (now : Nat) :
    (∃ fault, stores.purge now = (stores, .error fault)) ∨ stores.purge now = (stores, .ok 0) := by
  unfold purge
  split
  next fault _ => exact .inl ⟨fault, rfl⟩
  next register answered =>
    simp only
    cases ended : (stores.backing.purge register now).2 with
    | zero =>
      have same : (stores.backing.purge register now).1 = register := by
        have split := register.live_length_add_endedCount (stores.backing.kept now)
        rw [show register.endedCount _ = 0 from ended, Nat.add_zero] at split
        exact List.filter_sublist.eq_of_length split
      rw [same, setRegister_of_register answered]
      exact Database.conclude_cases _ _ _
    | succ count =>
      obtain ⟨fault, refused⟩ := exists_refusal?_of_unwritable unwritable
      rw [decide_eq_true (Nat.succ_pos count), refused]
      exact .inl ⟨fault, rfl⟩

end Unwritable

/-- A revocation that succeeds was written into a register that can be asked and written to. -/
theorem serves_of_revoke {token : String} {expiry : Nat}
    (written : (stores.revoke token expiry).2 = .ok ()) : ∃ register, stores.Serves register := by
  by_cases writable : stores.IsWritable
  · cases answered : stores.register with
    | ok register => exact ⟨register, answered, writable⟩
    | error fault =>
      rw [revoke, answered] at written
      cases written
  · obtain ⟨fault, refused⟩ := revoke_of_unwritable writable token expiry
    rw [refused] at written
    cases written

end Session.Stores

end SessionServer
