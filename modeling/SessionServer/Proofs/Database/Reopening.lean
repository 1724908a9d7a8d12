import SessionServer.Database.Connection

/-!
A database in a file is there again when it is opened anew. Which file an operator's path leads to
follows from the path and the directory alone, and bringing tables up to date never touches revoked
tokens that are there.
-/

namespace SessionServer.Database

/-- A result that came in spite of a check comes from behind the check. -/
theorem eq_ok_of_check {ε α : Type} {check : Prop} [Decidable check] {error : ε} {result : Except ε α}
    {value : α} (passed : (if check then .error error else result) = .ok value) : result = .ok value := by
  split at passed
  next => cases passed
  next => exact passed

theorem eq_ok_of_toOption {ε α : Type} {result : Except ε α} {value : α}
    (found : result.toOption = some value) : result = .ok value := by
  cases result with
  | ok other => exact congrArg Except.ok (Option.some.inj found)
  | error error => cases found

theorem Files.find?_put (files : Files) {path : Path} (proper : path ≠ []) (entry : Entry) :
    (files.put path entry).find? path = some entry := by
  rw [find?, if_neg proper, put, List.lookup_append]
  have absent : (files.entries.filter fun other => other.1 ≠ path).lookup path = none := by
    apply List.lookup_eq_none_iff.mpr
    intro other member
    have differ : other.1 ≠ path := of_decide_eq_true (List.mem_filter.mp member).2
    exact bne_iff_ne.mpr (Ne.symm differ)
  rw [absent, Option.none_or, List.lookup_cons_self]

/-- The engine's way of following names leads nowhere, or to where the names lead by their text. -/
theorem Files.eq_of_resolveFrom? {files : Files} {names : List String} {path found : Path}
    (resolved : files.resolveFrom? path names = some found) : found = names.foldl Path.enter path := by
  induction names generalizing path with
  | nil =>
      rw [resolveFrom?] at resolved
      cases resolved
      rfl
  | cons name rest ih =>
      rw [List.foldl_cons]
      simp only [resolveFrom?] at resolved
      split at resolved
      next => exact ih resolved
      next =>
        split at resolved
        next => cases resolved
        next =>
          split at resolved
          next => exact ih resolved
          next =>
            split at resolved
            next => cases resolved
            next => exact ih resolved
          next => cases resolved

theorem Files.eq_of_resolve? {files : Files} {directory path : Path} {text : String}
    (resolved : files.resolve? directory text = some path) :
    path = Path.ofText directory text ∧ path ≠ [] := by
  unfold resolve? at resolved
  split at resolved
  next found names =>
    split at resolved
    next => cases resolved
    next proper =>
      cases resolved
      exact ⟨eq_of_resolveFrom? names, fun root => proper (.inl root)⟩
  next => cases resolved

namespace Opened

variable {files : Files} {directory : Path} {fileName : FileName} {access : Access} {isReadOnly : Bool}
  {opened : Opened}

/-- Whether the file that another one is modelled on is there, if there is to be one. -/
def modelIsThere (files : Files) (directory : Path) (fileName : FileName) : Bool :=
  match fileName.value? "modeof" with
  | some model => (files.walk directory (FileName.text model)).isOk
  | none => true

/-- What is known of a file that was opened. -/
theorem ofFile_eq_ok_iff :
    ofFile files directory fileName access isReadOnly = .ok opened ↔
      ∃ path tables, files.resolve? directory (FileName.text fileName.octets) = some path ∧
        modelIsThere files directory fileName = true ∧ tablesAt files path access = .ok tables ∧
        opened =
          { storage := .file path, tables := tables
            writeFault := (readOnlyFault isReadOnly).or
              (if path.allowsJournal then none else some Error.cannotOpen)
            secondFault :=
              reconnectFault files directory (FileName.text fileName.octets) path } := by
  unfold ofFile
  cases files.resolve? directory (FileName.text fileName.octets) with
  | none => simp
  | some path =>
    simp only [Option.some.injEq, exists_and_left, exists_eq_left']
    show (if (!modelIsThere files directory fileName) = true then Except.error Error.noSuchModel else _) =
      .ok opened ↔ _
    cases modelIsThere files directory fileName with
    | false => simp
    | true =>
      simp only [Bool.not_true, Bool.false_eq_true, if_false, true_and]
      cases tablesAt files path access with
      | error => simp
      | ok tables =>
        simp only [Except.ok.injEq, exists_eq_left']
        exact eq_comm

/-- What is opened by its file's name is in the file that the name leads to. -/
theorem ofFile_eq_ok (opens : ofFile files directory fileName access isReadOnly = .ok opened) :
    let path := Path.ofText directory (FileName.text fileName.octets)
    path ≠ [] ∧ opened.storage = .file path ∧ tablesAt files path access = .ok opened.tables := by
  obtain ⟨path, tables, resolved, -, read, rfl⟩ := ofFile_eq_ok_iff.mp opens
  obtain ⟨rfl, proper⟩ := Files.eq_of_resolve? resolved
  exact ⟨proper, rfl, read⟩

theorem inMemory_ne_file (shared isReadOnly : Bool) (path : Path) :
    (inMemory shared isReadOnly).storage ≠ .file path := by
  cases shared with
  | true => exact Storage.noConfusion
  | false => exact Storage.noConfusion

/-- If a file's name leads to a file once, it does so among all files. -/
theorem ofFileName_of_file {files : Files} {directory path : Path} {fileName : FileName}
    {opening : Opening} {opened : Opened}
    (opens : ofFileName files directory fileName opening = .ok opened)
    (inFile : opened.storage = .file path) :
    ∃ isReadOnly, ∀ others, ofFileName others directory fileName opening =
      ofFile others directory fileName opening.access isReadOnly := by
  unfold ofFileName at opens ⊢
  by_cases inMemory : opening.inMemory = true ∨ fileName.octets = Utf8.encode Location.memoryName
  · simp only [if_pos inMemory] at opens
    cases opens
    exact absurd inFile (inMemory_ne_file _ _ path)
  · by_cases nameless : fileName.octets = []
    · simp only [if_neg inMemory, if_pos nameless] at opens
      cases opens
      exact absurd inFile (inMemory_ne_file _ _ path)
    · by_cases inMemorySystem : opening.fileSystem = Opening.memorySystem
      · simp only [if_neg inMemory, if_neg nameless, if_pos inMemorySystem] at opens
        cases eq_ok_of_check opens
        exact absurd inFile (inMemory_ne_file _ _ path)
      · simp only [if_neg inMemory, if_neg nameless, if_neg inMemorySystem]
        exact ⟨_, fun others => rfl⟩

/-- If a location leads to a file once, it does so among all files. -/
theorem ofLocation_of_file {files : Files} {directory path : Path} {location : Location}
    {opened : Opened} (opens : ofLocation files directory location = .ok opened)
    (inFile : opened.storage = .file path) :
    ∃ fileName access isReadOnly, path = Path.ofText directory (FileName.text fileName.octets) ∧
      path ≠ [] ∧ ∀ others, ofLocation others directory location =
        ofFile others directory fileName access isReadOnly := by
  unfold ofLocation at opens ⊢
  split at opens
  next => cases opens
  next fileName named =>
    split at opens
    next => cases opens
    next opening understood =>
      obtain ⟨isReadOnly, same⟩ := ofFileName_of_file opens inFile
      rw [same] at opens
      obtain ⟨proper, stored, -⟩ := ofFile_eq_ok opens
      have place := Storage.file.inj (inFile.symm.trans stored)
      exact ⟨fileName, opening.access, isReadOnly, place, place ▸ proper, same⟩

end Opened

/-- Bringing tables up to date keeps the revoked tokens that are there. -/
theorem Tables.migrate_revokedTokens {tables updated : Tables} {table : RevokedTokens}
    (migrated : tables.migrate = (updated, none)) (present : tables.revokedTokens = some table) :
    updated.revokedTokens = some table := by
  have versions : tables.withVersions.revokedTokens = some table := by
    unfold withVersions
    split
    next => exact present
    next => exact present
  have refused : ∃ error, tables.withVersions.transaction firstVersion = .error error := by
    unfold transaction firstVersion
    simp only [List.foldlM_cons, execute, versions]
    split
    next => exact ⟨_, rfl⟩
    next => exact ⟨_, rfl⟩
  unfold migrate at migrated
  simp only at migrated
  split at migrated
  next =>
    obtain ⟨error, refused⟩ := refused
    simp only [refused, Prod.mk.injEq, reduceCtorEq, and_false] at migrated
  next =>
    cases migrated
    exact versions

/-- Whether an operator's path, seen from a directory, leads to the file at a path. -/
def LeadsTo (directory : Path) (text : String) (path : Path) : Prop :=
  ∃ files location opened, Location.ofPath text = .ok location ∧
    Opened.ofLocation files directory location = .ok opened ∧ opened.storage = .file path

variable {files remaining : Files} {directory path : Path} {text : String} {database reopened : Database}

/-- What opening a database comes to: what was opened, brought up to date without a fault. -/
theorem openAt_eq_ok (opens : openAt files directory text = (remaining, .ok database)) :
    ∃ location opened, Location.ofPath text = .ok location ∧
      Opened.ofLocation files directory location = .ok opened ∧ ofOpened opened = (database, none) := by
  unfold openAt at opens
  split at opens
  next => cases opens
  next location understood =>
    split at opens
    next => cases opens
    next opened found =>
      refine ⟨location, opened, understood, found, ?_⟩
      simp only at opens
      split at opens
      next => cases opens
      next sound =>
        cases opens
        rw [← sound]

/-- The path of a storage that is a file. -/
def Storage.path? : Storage → Option Path
  | .file path => some path
  | .common | .separate => none

theorem Storage.path?_eq_some_iff {storage : Storage} :
    storage.path? = some path ↔ storage = .file path := by
  cases storage with
  | file other => simp [path?]
  | common => simp [path?]
  | separate => simp [path?]

theorem ofOpened_path {opened : Opened} {fault : Option Error}
    (updated : ofOpened opened = (database, fault)) :
    database.path = some path ↔ opened.storage = .file path := by
  have placed : database.path = opened.storage.path? := by
    rw [← show (ofOpened opened).1 = database from congrArg Prod.fst updated]
    unfold ofOpened
    simp only
    split
    next => rfl
    next =>
      split
      next => rfl
      next => rfl
  rw [placed, Storage.path?_eq_some_iff]

theorem ofOpened_revokedTokens {opened : Opened} {table : RevokedTokens}
    (updated : ofOpened opened = (database, none)) (present : opened.tables.revokedTokens = some table) :
    database.tables.revokedTokens = some table := by
  unfold ofOpened at updated
  simp only at updated
  split at updated
  next =>
    obtain ⟨rfl, -⟩ := Prod.mk.inj updated
    exact present
  next =>
    split at updated
    next => cases updated
    next =>
      obtain ⟨rfl, sound⟩ := Prod.mk.inj updated
      exact Tables.migrate_revokedTokens (Prod.ext rfl sound) present

/-- A database that was opened in a file is where its path leads to. -/
theorem leadsTo_of_openAt (opens : openAt files directory text = (remaining, .ok database))
    (inFile : database.path = some path) : LeadsTo directory text path := by
  obtain ⟨location, opened, understood, found, updated⟩ := openAt_eq_ok opens
  exact ⟨files, location, opened, understood, found, (ofOpened_path updated).mp inFile⟩

/-- Opening a database again after it was saved finds the same file, with the tables that were saved. -/
theorem opened_of_save (leads : LeadsTo directory text path) (inFile : database.path = some path)
    (opens : openAt (database.save files) directory text = (remaining, .ok reopened)) :
    ∃ opened, ofOpened opened = (reopened, none) ∧ opened.storage = .file path ∧
      opened.tables = database.tables := by
  obtain ⟨others, location, first, understood, foundFirst, storedFirst⟩ := leads
  obtain ⟨again, opened, understoodAgain, found, updated⟩ := openAt_eq_ok opens
  cases understood.symm.trans understoodAgain
  obtain ⟨fileName, access, isReadOnly, place, proper, same⟩ :=
    Opened.ofLocation_of_file foundFirst storedFirst
  rw [same] at found
  obtain ⟨-, stored, read⟩ := Opened.ofFile_eq_ok found
  rw [← place] at stored read
  have saved : (database.save files).find? path = some (.database database.tables) := by
    simp only [save, inFile]
    exact Files.find?_put files proper _
  unfold Opened.tablesAt at read
  rw [saved] at read
  exact ⟨opened, updated, stored, (Except.ok.inj read).symm⟩

/-- Opening a database again after it was saved finds the same file, with the same revoked tokens. -/
theorem reopened_revokedTokens (leads : LeadsTo directory text path)
    (inFile : database.path = some path)
    (opens : openAt (database.save files) directory text = (remaining, .ok reopened)) :
    reopened.path = some path ∧ ∀ table, database.tables.revokedTokens = some table →
      reopened.tables.revokedTokens = some table := by
  obtain ⟨opened, updated, stored, tables⟩ := opened_of_save leads inFile opens
  refine ⟨(ofOpened_path updated).mpr stored, ?_⟩
  intro table present
  exact ofOpened_revokedTokens updated (tables ▸ present)

end SessionServer.Database
