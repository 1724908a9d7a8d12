import SessionServer.Proofs.Database.Reopening

/-!
Databases that were brought up to date. Opening one again finds all of its tables as they were, if it is
kept in a file, and the tables of a new database otherwise.
-/

namespace SessionServer.Database

/-- Whether tables have a version that needs no more statements. -/
def Tables.IsCurrent (tables : Tables) : Prop :=
  ∃ version, tables.version = some (some version) ∧ currentVersion ≤ version

/-- The tables of a new database. -/
def Tables.new : Tables := Tables.empty.migrate.1

namespace Tables

variable {tables updated : Tables}

theorem isCurrent_of_not_lt (upToDate : ¬ tables.versionNumber < currentVersion) :
    tables.IsCurrent := by
  unfold versionNumber at upToDate
  split at upToDate
  next version written => exact ⟨version, written, Int.not_lt.mp upToDate⟩
  next => exact absurd (by decide) upToDate

/-- The last statement of the first version writes the version. -/
theorem version_of_transaction (done : tables.transaction firstVersion = .ok updated) :
    updated.version = some (some currentVersion) := by
  simp only [transaction, firstVersion, List.foldlM_cons, List.foldlM_nil] at done
  cases accounts : tables.execute .createAccounts with
  | error error => rw [accounts] at done; cases done
  | ok first =>
    rw [accounts] at done
    simp only [bind, Except.bind] at done
    cases revokedTokens : first.execute .createRevokedTokens with
    | error error => rw [revokedTokens] at done; cases done
    | ok second =>
      rw [revokedTokens] at done
      simp only at done
      cases index : second.execute .createIndex with
      | error error => rw [index] at done; cases done
      | ok third =>
        rw [index] at done
        cases done
        rfl

theorem isCurrent_of_migrate (migrated : tables.migrate = (updated, none)) : updated.IsCurrent := by
  unfold migrate at migrated
  simp only at migrated
  split at migrated
  next =>
    split at migrated
    next done =>
      cases migrated
      exact ⟨currentVersion, version_of_transaction done, Int.le_refl _⟩
    next => cases migrated
  next upToDate =>
    cases migrated
    exact isCurrent_of_not_lt upToDate

theorem isCurrent_of_migrationFault? {fault : Error} (sound : tables.migrationFault? fault = none) :
    tables.IsCurrent := by
  unfold migrationFault? at sound
  split at sound
  next => cases sound
  next =>
    split at sound
    next =>
      split at sound
      next => cases sound
      next => cases sound
    next upToDate => exact isCurrent_of_not_lt upToDate

theorem IsCurrent.not_lt (current : tables.IsCurrent) : ¬ tables.versionNumber < currentVersion := by
  obtain ⟨version, written, upToDate⟩ := current
  simp only [versionNumber, written]
  exact Int.not_lt.mpr upToDate

/-- Tables that are up to date stay as they are. -/
theorem IsCurrent.migrate (current : tables.IsCurrent) : tables.migrate = (tables, none) := by
  have notOlder := current.not_lt
  obtain ⟨version, written, -⟩ := current
  have same : tables.withVersions = tables := by simp [withVersions, written]
  unfold Tables.migrate
  simp only [same, if_neg notOlder]

/-- Nothing has to be written to tables that are up to date. -/
theorem IsCurrent.migrationFault? (current : tables.IsCurrent) (fault : Error) :
    tables.migrationFault? fault = none := by
  have notOlder := current.not_lt
  obtain ⟨version, written, -⟩ := current
  simp only [Tables.migrationFault?, written, Option.isNone_some, Bool.false_eq_true, if_false,
    if_neg notOlder]

end Tables

namespace Opened

/-- What is not kept in a file starts without tables. -/
theorem tables_of_ofLocation {files : Files} {directory : Path} {location : Location} {opened : Opened}
    (opens : ofLocation files directory location = .ok opened)
    (notInFile : ∀ path, opened.storage ≠ .file path) : opened.tables = Tables.empty := by
  unfold ofLocation at opens
  split at opens
  next => cases opens
  next fileName _ =>
    split at opens
    next => cases opens
    next opening _ =>
      unfold ofFileName at opens
      simp only at opens
      split at opens
      next => cases opens; rfl
      next =>
        split at opens
        next => cases opens; rfl
        next =>
          split at opens
          next => cases eq_ok_of_check opens; rfl
          next =>
            obtain ⟨-, stored, -⟩ := ofFile_eq_ok opens
            exact absurd stored (notInFile _)

end Opened

variable {files others remaining : Files} {directory : Path} {text : String}
  {database reopened : Database} {opened : Opened}

theorem ofOpened_isCurrent (updated : ofOpened opened = (database, none)) :
    database.tables.IsCurrent := by
  unfold ofOpened at updated
  simp only at updated
  split at updated
  next fault _ =>
    obtain ⟨rfl, sound⟩ := Prod.mk.inj updated
    exact Tables.isCurrent_of_migrationFault? sound
  next =>
    split at updated
    next => cases updated
    next =>
      obtain ⟨rfl, sound⟩ := Prod.mk.inj updated
      exact Tables.isCurrent_of_migrate (Prod.ext rfl sound)

/-- Bringing a database up to date that is so leaves its tables alone. -/
theorem ofOpened_tables (updated : ofOpened opened = (database, none))
    (current : opened.tables.IsCurrent) : database.tables = opened.tables := by
  unfold ofOpened at updated
  simp only [current.migrate] at updated
  split at updated
  next => exact (congrArg Database.tables (Prod.mk.inj updated).1).symm
  next =>
    split at updated
    next => cases updated
    next => exact (congrArg Database.tables (Prod.mk.inj updated).1).symm

/-- A database that had no tables could be written to, and has those of a new one. -/
theorem ofOpened_new (updated : ofOpened opened = (database, none))
    (blank : opened.tables = Tables.empty) : database.tables = Tables.new ∧ database.writeFault = none := by
  unfold ofOpened at updated
  simp only [blank] at updated
  split at updated
  next => cases updated
  next =>
    split at updated
    next => cases updated
    next =>
      obtain ⟨rfl, -⟩ := Prod.mk.inj updated
      exact ⟨rfl, rfl⟩

/-- Whether a database is in the place that an operator's path, seen from a directory, leads to. -/
def IsAt (directory : Path) (text : String) (database : Database) : Prop :=
  ∃ files remaining first, openAt files directory text = (remaining, .ok first) ∧
    first.path = database.path

theorem IsAt.leadsTo {path : Path} (placed : database.IsAt directory text)
    (inFile : database.path = some path) : LeadsTo directory text path := by
  obtain ⟨_, _, first, opens, same⟩ := placed
  exact leadsTo_of_openAt opens (same.trans inFile)

theorem IsAt.of_path {other : Database} (placed : database.IsAt directory text)
    (same : other.path = database.path) : other.IsAt directory text := by
  obtain ⟨files, remaining, first, opens, path⟩ := placed
  exact ⟨files, remaining, first, opens, path.trans same.symm⟩

theorem isAt_of_openAt (opens : openAt files directory text = (remaining, .ok database)) :
    database.IsAt directory text := ⟨files, remaining, database, opens, rfl⟩

theorem isCurrent_of_openAt (opens : openAt files directory text = (remaining, .ok database)) :
    database.tables.IsCurrent := by
  obtain ⟨_, _, _, _, updated⟩ := openAt_eq_ok opens
  exact ofOpened_isCurrent updated

/-- A database in a file that is up to date is found again as it was saved. -/
theorem reopened_of_file {path : Path} (placed : database.IsAt directory text)
    (current : database.tables.IsCurrent) (inFile : database.path = some path)
    (opens : openAt (database.save files) directory text = (remaining, .ok reopened)) :
    reopened.path = database.path ∧ reopened.tables = database.tables := by
  obtain ⟨opened, updated, stored, tables⟩ := opened_of_save (placed.leadsTo inFile) inFile opens
  refine ⟨((ofOpened_path updated).mpr stored).trans inFile.symm, ?_⟩
  rw [← tables]
  exact ofOpened_tables updated (tables ▸ current)

/-- A database that is not in a file is a new one when it is opened again. -/
theorem reopened_of_memory (placed : database.IsAt directory text) (inMemory : database.path = none)
    (opens : openAt files directory text = (remaining, .ok reopened)) :
    reopened.path = none ∧ reopened.tables = Tables.new ∧ reopened.writeFault = none := by
  obtain ⟨_, _, first, opensFirst, same⟩ := placed
  obtain ⟨location, before, understoodBefore, foundBefore, updatedBefore⟩ := openAt_eq_ok opensFirst
  obtain ⟨_, opened, understood, found, updated⟩ := openAt_eq_ok opens
  cases understood.symm.trans understoodBefore
  have notInFile (path : Path) : opened.storage ≠ .file path := by
    intro stored
    obtain ⟨fileName, access, isReadOnly, -, -, always⟩ := Opened.ofLocation_of_file found stored
    rw [always] at foundBefore
    obtain ⟨-, storedBefore, -⟩ := Opened.ofFile_eq_ok foundBefore
    have inFile := (ofOpened_path updatedBefore).mpr storedBefore
    rw [same.trans inMemory] at inFile
    cases inFile
  refine ⟨?_, ofOpened_new updated (Opened.tables_of_ofLocation found notInFile)⟩
  cases kept : reopened.path with
  | none => rfl
  | some path => exact absurd ((ofOpened_path updated).mp kept) (notInFile path)

end SessionServer.Database
