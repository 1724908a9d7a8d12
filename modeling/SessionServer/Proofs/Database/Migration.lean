import SessionServer.Proofs.Database.Lasting

/-!
Opening a database changes all of its tables or none. Tables that are up to date stay as they are, tables of
an older version are refused if any of those that are to be made is there, and what was refused once is
refused again.
-/

namespace SessionServer.Database

namespace Tables

variable {tables : Tables}

/-- The first statement that makes a table which is there undoes all of them. -/
theorem transaction_firstVersion (tables : Tables) :
    tables.transaction firstVersion =
      if tables.accounts.isSome then .error (.tableExists accountsName)
      else if tables.revokedTokens.isSome then .error (.tableExists revokedTokensName)
      else .ok new := by
  rcases tables with ⟨version, accounts, revokedTokens⟩
  cases accounts with
  | some => rfl
  | none =>
    cases revokedTokens with
    | some => rfl
    | none => rfl

@[simp] theorem withVersions_accounts (tables : Tables) :
    tables.withVersions.accounts = tables.accounts := by
  unfold withVersions
  split <;> rfl

@[simp] theorem withVersions_revokedTokens (tables : Tables) :
    tables.withVersions.revokedTokens = tables.revokedTokens := by
  unfold withVersions
  split <;> rfl

@[simp] theorem versionNumber_withVersions (tables : Tables) :
    tables.withVersions.versionNumber = tables.versionNumber := by
  rcases tables with ⟨version, accounts, revokedTokens⟩
  cases version <;> rfl

theorem withVersions_withVersions (tables : Tables) :
    tables.withVersions.withVersions = tables.withVersions := by
  rcases tables with ⟨version, accounts, revokedTokens⟩
  cases version <;> rfl

/-- The table of versions gets at most made, and then has no row. -/
theorem withVersions_version (tables : Tables) :
    tables.withVersions.version = tables.version ∨
      tables.version = none ∧ tables.withVersions.version = some none := by
  rcases tables with ⟨version, accounts, revokedTokens⟩
  cases version with
  | none => exact .inr ⟨rfl, rfl⟩
  | some => exact .inl rfl

theorem lt_of_not_isCurrent (older : ¬ tables.IsCurrent) : tables.versionNumber < currentVersion :=
  Decidable.byContradiction fun upToDate => older (isCurrent_of_not_lt upToDate)

/-- Older tables are made anew if there are none, and refused otherwise. -/
theorem migrate_of_not_isCurrent (older : ¬ tables.IsCurrent) :
    tables.migrate =
      if tables.accounts.isSome then (tables.withVersions, some (.tableExists accountsName))
      else if tables.revokedTokens.isSome then
        (tables.withVersions, some (.tableExists revokedTokensName))
      else (new, none) := by
  simp only [migrate, versionNumber_withVersions, if_pos (lt_of_not_isCurrent older),
    transaction_firstVersion, withVersions_accounts, withVersions_revokedTokens]
  cases tables.accounts.isSome with
  | true => rfl
  | false => cases tables.revokedTokens.isSome <;> rfl

theorem migrate_withVersions (tables : Tables) : tables.withVersions.migrate = tables.migrate := by
  simp only [migrate, withVersions_withVersions]

/-- Tables that were refused are refused again. -/
theorem migrate_of_fault {left : Tables} {error : Error} (failed : tables.migrate = (left, some error)) :
    left.migrate = (left, some error) := by
  have same : left = tables.withVersions := by
    unfold migrate at failed
    simp only at failed
    split at failed
    next =>
      split at failed
      next => cases failed
      next => exact (Prod.mk.inj failed).1.symm
    next => cases failed
  rw [same, migrate_withVersions, ← same, failed]

end Tables

/-- What may become of the tables that were opened. -/
inductive Updates (opened : Opened) : Tables → Option Error → Prop where
  | current (upToDate : opened.tables.IsCurrent) : Updates opened opened.tables none
  | made (older : ¬ opened.tables.IsCurrent) (writable : opened.writeFault = none)
      (noAccounts : opened.tables.accounts = none)
      (noRevokedTokens : opened.tables.revokedTokens = none) : Updates opened .new none
  | refused (older : ¬ opened.tables.IsCurrent) (writable : opened.writeFault = none)
      (present : ¬ (opened.tables.accounts = none ∧ opened.tables.revokedTokens = none))
      (error : Error) : Updates opened opened.tables.withVersions (some error)
  | unwritten (older : ¬ opened.tables.IsCurrent) {fault : Error}
      (unwritable : opened.writeFault = some fault) (error : Error) :
      Updates opened opened.tables (some error)

namespace Updates

variable {opened : Opened} {left : Tables} {fault : Option Error}

/-- What a fault leaves is what was there, but for an empty table of versions. -/
theorem of_fault {error : Error} (updates : Updates opened left (some error)) :
    left.accounts = opened.tables.accounts ∧ left.revokedTokens = opened.tables.revokedTokens ∧
      (left.version = opened.tables.version ∨
        opened.tables.version = none ∧ left.version = some none) := by
  cases updates with
  | refused => exact ⟨opened.tables.withVersions_accounts, opened.tables.withVersions_revokedTokens,
      opened.tables.withVersions_version⟩
  | unwritten => exact ⟨rfl, rfl, .inl rfl⟩

theorem eq_of_isCurrent (updates : Updates opened left none) (current : opened.tables.IsCurrent) :
    left = opened.tables := by
  cases updates with
  | current => rfl
  | made older => exact absurd current older

theorem eq_new_of_older (updates : Updates opened left none) (older : ¬ opened.tables.IsCurrent) :
    opened.tables.accounts = none ∧ opened.tables.revokedTokens = none ∧ left = .new := by
  cases updates with
  | current upToDate => exact absurd upToDate older
  | made _ _ noAccounts noRevokedTokens => exact ⟨noAccounts, noRevokedTokens, rfl⟩

/-- Whether all goes well is told by the tables, where they can be written to. -/
theorem eq_none_iff (updates : Updates opened left fault) (writable : opened.writeFault = none) :
    fault = none ↔ opened.tables.IsCurrent ∨
      opened.tables.accounts = none ∧ opened.tables.revokedTokens = none := by
  cases updates with
  | current upToDate => exact iff_of_true rfl (.inl upToDate)
  | made _ _ noAccounts noRevokedTokens => exact iff_of_true rfl (.inr ⟨noAccounts, noRevokedTokens⟩)
  | refused older _ present => exact iff_of_false (Option.some_ne_none _) (not_or.mpr ⟨older, present⟩)
  | unwritten _ unwritable => exact absurd (unwritable.symm.trans writable) (Option.some_ne_none _)

end Updates

theorem updates_ofOpened {opened : Opened} (reconnects : opened.secondFault = none) :
    Updates opened (ofOpened opened).1.tables (ofOpened opened).2 := by
  unfold ofOpened
  simp only [reconnects]
  cases writable : opened.writeFault with
  | some fault =>
    simp only
    cases sound : opened.tables.migrationFault? fault with
    | none => exact .current (Tables.isCurrent_of_migrationFault? sound)
    | some error =>
      refine .unwritten ?_ writable error
      intro current
      rw [current.migrationFault? fault] at sound
      cases sound
  | none =>
    simp only
    by_cases current : opened.tables.IsCurrent
    · rw [current.migrate]
      exact .current current
    · rw [Tables.migrate_of_not_isCurrent current]
      cases accounts : opened.tables.accounts with
      | some => exact .refused current writable (by simp [accounts]) _
      | none =>
        cases revokedTokens : opened.tables.revokedTokens with
        | some => exact .refused current writable (by simp [revokedTokens]) _
        | none => exact .made current writable accounts revokedTokens

/-- What a fault left behind meets the same fault. -/
theorem ofOpened_of_fault {opened : Opened} {database : Database} {error : Error}
    (reconnects : opened.secondFault = none) (failed : ofOpened opened = (database, some error)) :
    ofOpened { opened with tables := database.tables, secondFault := none } = (database, some error) := by
  unfold ofOpened at failed ⊢
  simp only [reconnects] at failed
  simp only
  cases writable : opened.writeFault with
  | some fault =>
    simp only [writable] at failed
    obtain ⟨rfl, found⟩ := Prod.mk.inj failed
    simp only [found]
  | none =>
    simp only [writable] at failed
    obtain ⟨rfl, found⟩ := Prod.mk.inj failed
    simp only [Tables.migrate_of_fault (Prod.ext rfl found : opened.tables.migrate = (_, some error))]

/-- The tables in the file at a path. A file of at most one octet has none. -/
def Files.tablesIn? (files : Files) (path : Path) : Option Tables :=
  match files.find? path with
  | some (.database tables) => some tables
  | some (.plain octets) => if octets.length ≤ 1 then some Tables.empty else none
  | _ => none

variable {files : Files} {directory path : Path} {text : String} {tables : Tables}

theorem Files.tablesIn?_put (files : Files) (proper : path ≠ []) (tables : Tables) :
    (files.put path (.database tables)).tablesIn? path = some tables := by
  simp only [tablesIn?, find?_put files proper]

theorem Files.isFile_of_tablesIn? (held : files.tablesIn? path = some tables) :
    ∃ entry, files.find? path = some entry ∧ entry.isDirectory = false := by
  unfold tablesIn? at held
  split at held
  next there => exact ⟨_, there, rfl⟩
  next there => exact ⟨_, there, rfl⟩
  next => cases held

theorem Opened.tablesAt_of_tablesIn? (held : files.tablesIn? path = some tables) (access : Access) :
    tablesAt files path access = .ok tables := by
  unfold Files.tablesIn? at held
  unfold tablesAt
  split at held
  next there =>
    cases held
    rw [there]
  next octets there =>
    split at held
    next short =>
      cases held
      simp only [there, if_pos short]
    next => cases held
  next => cases held

/-- A file that was found with its tables is found again, by as many connections as wanted, with whatever
tables were written to it. -/
theorem Opened.ofLocation_of_held {location : Location} {opened : Opened}
    (opens : ofLocation files directory location = .ok opened) (inFile : opened.storage = .file path)
    (held : files.tablesIn? path = some tables) :
    opened.tables = tables ∧ opened.secondFault = none ∧
      ∀ left, ofLocation (files.put path (.database left)) directory location =
        .ok { opened with tables := left, secondFault := none } := by
  obtain ⟨fileName, access, isReadOnly, place, proper, same⟩ := ofLocation_of_file opens inFile
  rw [same] at opens
  obtain ⟨found, read, resolved, -, readTables, rfl⟩ := ofFile_eq_ok_iff.mp opens
  obtain rfl : found = path := Storage.file.inj inFile
  rw [tablesAt_of_tablesIn? held] at readTables
  obtain ⟨entry, there, isFile⟩ := Files.isFile_of_tablesIn? held
  have reconnects : reconnectFault files directory (FileName.text fileName.octets) found = none := by
    have shape : Files.SameShape files (files.put found (.database Tables.empty)) :=
      Files.sameShape_put_of_find? proper there rfl isFile
    rw [reconnectFault, ← shape.resolve?, if_pos resolved]
  refine ⟨(Except.ok.inj readTables).symm, reconnects, ?_⟩
  intro left
  have again := ofFile_put opens (.inl reconnects) left
  rw [← place] at again
  rw [same, again]

/-- What opening comes to, once a database was brought up to date or was not. -/
def opening (updated : Database × Option Error) : Except Error Database :=
  match updated.2 with
  | some error => .error error
  | none => .ok updated.1

theorem openAt_of_found {location : Location} {opened : Opened}
    (understood : Location.ofPath text = .ok location)
    (found : Opened.ofLocation files directory location = .ok opened) :
    openAt files directory text = ((ofOpened opened).1.save files, opening (ofOpened opened)) := by
  simp only [openAt, understood, found]
  rfl

theorem openAt_of_fault {location : Location} {error : Error}
    (understood : Location.ofPath text = .ok location)
    (failed : Opened.ofLocation files directory location = .error error) :
    openAt files directory text = (files, .error error) := by
  simp only [openAt, understood, failed]

/-- Opening a database again that was opened changes nothing. -/
theorem openAt_again {database : Database} {after : Files}
    (opens : openAt files directory text = (after, .ok database)) :
    openAt after directory text = (after, .ok database) := by
  obtain ⟨location, opened, understood, found, updated⟩ := openAt_eq_ok opens
  have saved : after = database.save files := by
    rw [openAt_of_found understood found, updated] at opens
    exact (Prod.mk.inj opens).1.symm
  have same : database.reopened = database := by
    have isOpen := ofOpened_isClosed updated
    cases kept : database.path with
    | none =>
      rw [eq_new_of_openAt opens kept]
      rfl
    | some path =>
      rw [reopened_of_path kept]
      rcases database with ⟨place, tables, isClosed, writeFault⟩
      cases kept
      cases isOpen
      rfl
  have again := lasts_of_openAt opens database ⟨rfl, rfl⟩ (isCurrent_of_openAt opens)
  rwa [same, saved, save_save files rfl, ← saved] at again

/-- A path that leads to a file leads to no other place. -/
theorem LeadsTo.storage {location : Location} {opened : Opened} (leads : LeadsTo directory text path)
    (understood : Location.ofPath text = .ok location)
    (found : Opened.ofLocation files directory location = .ok opened) :
    opened.storage = .file path ∧ path ≠ [] := by
  obtain ⟨others, same, first, understoodFirst, foundFirst, inFile⟩ := leads
  cases understood.symm.trans understoodFirst
  obtain ⟨fileName, access, isReadOnly, place, proper, always⟩ :=
    Opened.ofLocation_of_file foundFirst inFile
  rw [always] at found
  obtain ⟨-, stored, -⟩ := Opened.ofFile_eq_ok found
  exact ⟨place ▸ stored, proper⟩

/-- Opening a file that was found writes its tables as they were updated, and a fault meets the next opening
as well. -/
theorem openAt_updates {location : Location} {opened : Opened}
    (understood : Location.ofPath text = .ok location)
    (found : Opened.ofLocation files directory location = .ok opened)
    (inFile : opened.storage = .file path) (held : files.tablesIn? path = some tables) :
    ∃ database fault, Updates opened database.tables fault ∧ database.path = some path ∧
      openAt files directory text =
        (files.put path (.database database.tables), opening (database, fault)) ∧
      ∀ error, fault = some error → openAt (files.put path (.database database.tables)) directory text =
        (files.put path (.database database.tables), .error error) := by
  obtain ⟨-, reconnects, again⟩ := Opened.ofLocation_of_held found inFile held
  have updates := updates_ofOpened reconnects
  rcases updated : ofOpened opened with ⟨database, fault⟩
  rw [updated] at updates
  have placed : database.path = some path := (ofOpened_path updated).mpr inFile
  have saved (others : Files) : database.save others = others.put path (.database database.tables) := by
    rw [save, placed]
  refine ⟨database, fault, updates, placed, ?_, ?_⟩
  · rw [openAt_of_found understood found, updated, saved]
  · rintro error rfl
    rw [openAt_of_found understood (again database.tables), ofOpened_of_fault reconnects updated, saved,
      Files.put_put]
    rfl

/-- Whether the way to a database is open, and what is found there can be written to. -/
def IsWritable (files : Files) (directory : Path) (text : String) : Prop :=
  ∃ location opened, Location.ofPath text = .ok location ∧
    Opened.ofLocation files directory location = .ok opened ∧ opened.writeFault = none

/-- Opening a database in a file changes all of its tables or none. If it fails, the tables are as they were,
but for a table of versions that may have been made and is empty, and opening it again fails alike. If it
succeeds, tables of a version from the first one on are as they were; of older ones there were none, and
those of the first version were made, without rows. Opening it again then changes nothing. Where the file can
be written to, it fails for no other tables than those. -/
theorem opening_atomic (leads : LeadsTo directory text path) (held : files.tablesIn? path = some tables) :
    let after := (openAt files directory text).1
    let result := (openAt files directory text).2
    (∀ other, other ≠ path → after.find? other = files.find? other) ∧
    ∃ left, after.tablesIn? path = some left ∧
      (∀ error, result = .error error →
        left.accounts = tables.accounts ∧ left.revokedTokens = tables.revokedTokens ∧
        (left.version = tables.version ∨ tables.version = none ∧ left.version = some none) ∧
        openAt after directory text = (after, .error error)) ∧
      (∀ database, result = .ok database →
        database.path = some path ∧ database.tables = left ∧
        (tables.IsCurrent → left = tables) ∧
        (¬ tables.IsCurrent → tables.accounts = none ∧ tables.revokedTokens = none ∧
          left = { version := some (some 1), accounts := some { rows := [], lastId := 0 }
                   revokedTokens := some { register := [], indexed := true } }) ∧
        openAt after directory text = (after, .ok database)) ∧
      (IsWritable files directory text → ((∃ database, result = .ok database) ↔
        tables.IsCurrent ∨ tables.accounts = none ∧ tables.revokedTokens = none)) := by
  intro after result
  obtain ⟨_, location, _, understood, _, _⟩ := id leads
  cases found : Opened.ofLocation files directory location with
  | error fault =>
    have unopened : openAt files directory text = (files, .error fault) := by
      simp only [openAt, understood, found]
    have unchanged : after = files := congrArg Prod.fst unopened
    have failed : result = .error fault := congrArg Prod.snd unopened
    rw [unchanged, failed]
    refine ⟨fun _ _ => rfl, tables, held, ?_, ?_, ?_⟩
    · rintro error ⟨⟩
      exact ⟨rfl, rfl, .inl rfl, unopened⟩
    · rintro database ⟨⟩
    · rintro ⟨others, opened, again, opens, -⟩
      cases understood.symm.trans again
      cases found.symm.trans opens
  | ok opened =>
    obtain ⟨inFile, proper⟩ := leads.storage understood found
    obtain ⟨rfl, -⟩ := Opened.ofLocation_of_held found inFile held
    obtain ⟨database, fault, updates, placed, opens, again⟩ := openAt_updates understood found inFile held
    have written : after = files.put path (.database database.tables) := congrArg Prod.fst opens
    have came : result = opening (database, fault) := congrArg Prod.snd opens
    rw [written, came]
    refine ⟨fun other apart => Files.find?_put_of_ne files apart _, database.tables,
      Files.tablesIn?_put files proper _, ?_, ?_, ?_⟩
    · intro error failed
      cases fault with
      | none => cases failed
      | some error =>
        cases failed
        obtain ⟨accounts, revokedTokens, version⟩ := updates.of_fault
        exact ⟨accounts, revokedTokens, version, again error rfl⟩
    · intro other done
      cases fault with
      | some error => cases done
      | none =>
        cases done
        exact ⟨placed, rfl, updates.eq_of_isCurrent, updates.eq_new_of_older, openAt_again opens⟩
    · rintro ⟨others, other, understoodAgain, foundAgain, writable⟩
      cases understood.symm.trans understoodAgain
      cases found.symm.trans foundAgain
      rw [← updates.eq_none_iff writable]
      cases fault with
      | none => exact iff_of_true ⟨database, rfl⟩ rfl
      | some error =>
        refine iff_of_false ?_ (Option.some_ne_none error)
        rintro ⟨_, ⟨⟩⟩

/-- Tables with an account and no version. -/
def unversioned : Tables :=
  { accounts := some
      { rows := [{ id := 4, email := "ada@example.com", displayName := "Ada", passwordHash := "hash" }]
        lastId := 9 } }

/-- A file with these tables. -/
def unversionedFile : Files := { entries := [(["sessions.db"], .database unversioned)] }

/-- A file with accounts and no version is refused twice for the same reason, and keeps its accounts. -/
theorem opening_atomic_unversioned :
    let after := (openAt unversionedFile [] "sessions.db").1
    unversionedFile.tablesIn? ["sessions.db"] = some unversioned ∧
      openAt unversionedFile [] "sessions.db" = (after, .error (.tableExists "users")) ∧
      openAt after [] "sessions.db" = (after, .error (.tableExists "users")) ∧
      ∃ left, after.tablesIn? ["sessions.db"] = some left ∧ left.accounts = unversioned.accounts := by
  intro after
  have understood : Location.ofPath "sessions.db" = .ok { name := "sessions.db", create := true } :=
    eq_ok_of_toOption (by decide +kernel)
  have found : Opened.ofLocation unversionedFile [] { name := "sessions.db", create := true } =
      .ok { storage := .file ["sessions.db"], tables := unversioned } :=
    eq_ok_of_toOption (by decide +kernel)
  have leads : LeadsTo [] "sessions.db" ["sessions.db"] := ⟨_, _, _, understood, found, rfl⟩
  have held : unversionedFile.tablesIn? ["sessions.db"] = some unversioned := by decide +kernel
  have failed : (openAt unversionedFile [] "sessions.db").2 = .error (.tableExists "users") := by
    rw [openAt_of_found understood found]
    rfl
  obtain ⟨-, left, kept, refused, -⟩ := opening_atomic leads held
  obtain ⟨accounts, -, -, again⟩ := refused _ failed
  have first : openAt unversionedFile [] "sessions.db" = (after, .error (.tableExists "users")) := by
    rw [← failed]
  exact ⟨held, first, again, left, kept, accounts⟩

end SessionServer.Database
