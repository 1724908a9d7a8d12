import SessionServer.Proofs.Database.Current
import SessionServer.Proofs.Session.Contents

/-!
A database that was opened can be opened again. Whatever its tables have become, as long as their version
is still there, the way to it is open: a file is found again as it was saved, and a database in memory is
a new one.
-/

namespace SessionServer.Database

def Entry.isDirectory : Entry → Bool
  | .directory => true
  | .plain _ | .database _ => false

namespace Files

/-- What was put at a path last counts. -/
theorem put_put (files : Files) (path : Path) (first second : Entry) :
    (files.put path first).put path second = files.put path second := by
  simp [put, List.filter_append]

theorem find?_put_of_ne (files : Files) {path other : Path} (apart : other ≠ path) (entry : Entry) :
    (files.put path entry).find? other = files.find? other := by
  unfold find?
  split
  next => rfl
  next =>
    rw [put, List.lookup_append]
    have unchanged : (files.entries.filter fun kept => kept.1 ≠ path).lookup other =
        files.entries.lookup other := by
      induction files.entries with
      | nil => rfl
      | cons kept rest ih =>
        by_cases same : other = kept.1
        · have differs : kept.1 ≠ path := fun equal => apart (same.trans equal)
          rw [List.filter_cons, if_pos (decide_eq_true differs), List.lookup_cons, List.lookup_cons, ih]
        · have passed : (other == kept.1) = false := beq_false_of_ne same
          rw [List.filter_cons]
          split
          next => rw [List.lookup_cons, List.lookup_cons, passed, ih]
          next => rw [List.lookup_cons, passed, ih]
    have absent : [(path, entry)].lookup other = none :=
      List.lookup_eq_none_iff.mpr fun kept member => by
        rw [List.mem_singleton.mp member]
        exact bne_iff_ne.mpr apart
    rw [unchanged, absent, Option.or_none]

/-- Whether the same paths lead to directories, and the same paths to files. -/
def SameShape (first second : Files) : Prop :=
  ∀ path, (first.find? path).map Entry.isDirectory = (second.find? path).map Entry.isDirectory

variable {files first second : Files} {path found : Path} {names : List String} {entry other : Entry}

/-- A file in the place of another one leaves the shape. -/
theorem sameShape_put (files : Files) (proper : path ≠ []) (isFile : entry.isDirectory = false)
    (otherIsFile : other.isDirectory = false) :
    SameShape (files.put path entry) (files.put path other) := by
  intro place
  by_cases same : place = path
  · rw [same, find?_put files proper, find?_put files proper, Option.map_some, Option.map_some, isFile,
      otherIsFile]
  · rw [find?_put_of_ne files same, find?_put_of_ne files same]

theorem sameShape_put_of_find? (proper : path ≠ []) (there : files.find? path = some other)
    (isFile : entry.isDirectory = false) (otherIsFile : other.isDirectory = false) :
    SameShape files (files.put path entry) := by
  intro place
  by_cases same : place = path
  · rw [same, there, find?_put files proper, Option.map_some, Option.map_some, isFile, otherIsFile]
  · rw [find?_put_of_ne files same]

/-- The engine's way of following names sees the shape alone. -/
theorem SameShape.resolveFrom? (shape : SameShape first second) (path : Path) (names : List String) :
    first.resolveFrom? path names = second.resolveFrom? path names := by
  induction names generalizing path with
  | nil => rfl
  | cons name rest ih =>
    have here := shape path
    simp only [Files.resolveFrom?, ih]
    generalize first.find? path = one at here ⊢
    generalize second.find? path = two at here ⊢
    rcases one with _ | _ | _ | _
    · rcases two with _ | two
      · rfl
      · cases here
    all_goals
      rcases two with _ | _ | _ | _
      all_goals first | rfl | cases here

theorem SameShape.resolve? (shape : SameShape first second) (directory : Path) (text : String) :
    first.resolve? directory text = second.resolve? directory text := by
  rw [Files.resolve?, Files.resolve?, shape.resolveFrom?]

/-- A way that leads somewhere still does so when a file is put where no directory was. -/
theorem walkFrom_put (isFile : files.find? path ≠ some .directory) (entry : Entry) {start : Path}
    (walked : files.walkFrom start names = .ok found) :
    (files.put path entry).walkFrom start names = .ok found := by
  induction names generalizing start with
  | nil => exact walked
  | cons name rest ih =>
    simp only [walkFrom] at walked ⊢
    cases here : files.find? start with
    | none => simp [here] at walked
    | some standing =>
      cases standing with
      | plain => simp [here] at walked
      | database => simp [here] at walked
      | directory =>
        have apart : start ≠ path := by
          rintro rfl
          exact isFile here
        rw [find?_put_of_ne files apart, here]
        simp only [here] at walked ⊢
        split at walked
        next => cases walked
        next fits =>
          rw [if_neg fits]
          split at walked
          next there =>
            have still : ((files.put path entry).find? (start.enter name)).isSome = true := by
              by_cases same : start.enter name = path
              · by_cases root : path = []
                · rw [same, root, find?, if_pos rfl]
                  rfl
                · rw [same, find?_put files root]
                  rfl
              · rw [find?_put_of_ne files same]
                exact there
            rw [if_pos still]
            exact ih walked
          next => cases walked

theorem walk_put {directory : Path} {text : String} (isFile : files.find? path ≠ some .directory)
    (entry : Entry) (walked : files.walk directory text = .ok found) :
    (files.put path entry).walk directory text = .ok found := by
  unfold walk at walked ⊢
  split at walked
  next => cases walked
  next nonempty =>
    rw [if_neg nonempty]
    split at walked
    next => cases walked
    next short =>
      rw [if_neg short]
      exact walkFrom_put isFile entry walked

end Files

namespace Opened

variable {files : Files} {directory path : Path} {fileName : FileName} {access : Access}
  {isReadOnly : Bool} {opened : Opened} {tables : Tables}

theorem find?_ne_directory_of_tablesAt (read : tablesAt files path access = .ok tables) :
    files.find? path ≠ some .directory := by
  intro there
  simp only [tablesAt, there] at read
  cases read

/-- Tables with a version stand in a file that was there. -/
theorem find?_of_tablesAt (read : tablesAt files path access = .ok tables)
    (current : tables.IsCurrent) : files.find? path = some (.database tables) := by
  have filled : tables ≠ Tables.empty := by
    rintro rfl
    obtain ⟨version, written, -⟩ := current
    cases written
  unfold tablesAt at read
  split at read
  next there =>
    cases read
    exact there
  next =>
    split at read
    next => exact absurd (Except.ok.inj read).symm filled
    next => cases read
  next => cases read
  next =>
    split at read
    next =>
      split at read
      next => exact absurd (Except.ok.inj read).symm filled
      next => cases read
    next => cases read

theorem modelIsThere_put (isFile : files.find? path ≠ some .directory) (entry : Entry)
    (modelled : modelIsThere files directory fileName = true) :
    modelIsThere (files.put path entry) directory fileName = true := by
  unfold modelIsThere at modelled ⊢
  split
  next model asked =>
    rw [asked] at modelled
    show (((files.put path entry).walk directory (FileName.text model)).isOk) = true
    cases walked : files.walk directory (FileName.text model) with
    | error fault =>
      simp only [walked] at modelled
      cases modelled
    | ok found =>
      rw [Files.walk_put isFile entry walked]
      rfl
  next => rfl

/-- A file that was opened can be opened with other tables in it, by as many connections as wanted, if a
second connection found it or its tables were there before. -/
theorem ofFile_put (opens : ofFile files directory fileName access isReadOnly = .ok opened)
    (again : opened.secondFault = none ∨ opened.tables.IsCurrent) (tables : Tables) :
    ofFile (files.put (Path.ofText directory (FileName.text fileName.octets)) (.database tables))
        directory fileName access isReadOnly =
      .ok { opened with tables := tables, secondFault := none } := by
  obtain ⟨path, before, resolved, modelled, read, rfl⟩ := ofFile_eq_ok_iff.mp opens
  obtain ⟨named, proper⟩ := Files.eq_of_resolve? resolved
  have resolvedAgain (entry : Entry) (isFile : entry.isDirectory = false) :
      (files.put path entry).resolve? directory (FileName.text fileName.octets) = some path := by
    rcases again with reconnects | current
    · simp only [reconnectFault] at reconnects
      split at reconnects
      next found => exact ((Files.sameShape_put files proper isFile rfl).resolve? _ _).trans found
      next => cases reconnects
    · have shape : Files.SameShape files (files.put path entry) :=
        Files.sameShape_put_of_find? proper (find?_of_tablesAt read current) isFile rfl
      exact (shape.resolve? _ _).symm.trans resolved
  rw [← named]
  refine ofFile_eq_ok_iff.mpr ⟨path, tables, resolvedAgain _ rfl, ?_, ?_, ?_⟩
  · exact modelIsThere_put (find?_ne_directory_of_tablesAt read) _ modelled
  · simp only [tablesAt, Files.find?_put files proper]
  · have reconnects : reconnectFault (files.put path (.database tables)) directory
        (FileName.text fileName.octets) path = none := by
      rw [reconnectFault, Files.put_put, if_pos (resolvedAgain _ rfl)]
    rw [reconnects]

end Opened

/-- A database as it is found when it is opened again: a file with its tables, or a new database in
memory. -/
def reopened (database : Database) : Database :=
  { path := database.path
    tables := if database.path.isSome then database.tables else .new
    writeFault := database.writeFault }

theorem reopened_of_path {database : Database} {path : Path} (inFile : database.path = some path) :
    database.reopened =
      { path := some path, tables := database.tables, writeFault := database.writeFault } := by
  rw [reopened, inFile]
  rfl

/-- Whether the way to a database is open: with these files, it can be opened whatever tables were
written to it, as long as they are up to date. -/
def Lasts (directory : Path) (text : String) (files : Files) (opened : Database) : Prop :=
  ∀ database : Database, opened.IsBeside database → database.tables.IsCurrent →
    openAt (database.save files) directory text = (database.save files, .ok database.reopened)

variable {files remaining : Files} {directory : Path} {text : String} {database opened : Database}

theorem save_save {other : Database} (files : Files) (same : other.path = database.path) :
    other.save (database.save files) = other.save files := by
  unfold save
  rw [same]
  cases database.path with
  | none => rfl
  | some path => exact Files.put_put files path _ _

theorem save_reopened (database : Database) (files : Files) :
    database.reopened.save files = database.save files := by
  unfold save
  cases kept : database.path with
  | none => simp only [reopened, kept]
  | some path => simp only [reopened_of_path kept]

theorem Lasts.beside (lasts : Lasts directory text files opened) (here : opened.IsBeside database) :
    Lasts directory text files database :=
  fun other same current => lasts other (here.trans same) current

/-- What is written to a database leaves the way to it open. -/
theorem Lasts.save (lasts : Lasts directory text files database) :
    Lasts directory text (database.save files) database := by
  intro other same current
  rw [save_save files same.path]
  exact lasts other same current

/-- What a database that was opened can do without: a second connection, if nothing had to be written. -/
theorem ofOpened_again {opened : Opened} (updated : ofOpened opened = (database, none)) :
    opened.secondFault = none ∨ opened.tables.IsCurrent := by
  unfold ofOpened at updated
  simp only at updated
  split at updated
  next fault _ => exact .inr (Tables.isCurrent_of_migrationFault? (Prod.mk.inj updated).2)
  next =>
    split at updated
    next => cases updated
    next reconnects => exact .inl reconnects

theorem ofOpened_of_isCurrent {opened : Opened} {path : Path} (stored : opened.storage = .file path)
    (current : opened.tables.IsCurrent) (reconnects : opened.secondFault = none) :
    ofOpened opened =
      ({ path := some path, tables := opened.tables, writeFault := opened.writeFault }, none) := by
  unfold ofOpened
  simp only [stored, reconnects, current.migrate, current.migrationFault?]
  split
  next unwritable => rw [unwritable]
  next writable => rw [writable]

theorem ofOpened_isClosed {opened : Opened} {fault : Option Error}
    (updated : ofOpened opened = (database, fault)) : database.isClosed = false := by
  rw [← show (ofOpened opened).1 = database from congrArg Prod.fst updated]
  unfold ofOpened
  simp only
  split
  next => rfl
  next =>
    split
    next => rfl
    next => rfl

/-- What cannot be written to when it is opened cannot be written to later. -/
theorem ofOpened_writeFault {opened : Opened} {fault : Option Error}
    (updated : ofOpened opened = (database, fault)) : database.writeFault = opened.writeFault := by
  rw [← show (ofOpened opened).1 = database from congrArg Prod.fst updated]
  unfold ofOpened
  simp only
  split
  next unwritable => exact unwritable.symm
  next writable =>
    split
    next => exact writable.symm
    next => exact writable.symm

/-- A database in memory is a new one when it is opened. -/
theorem eq_new_of_openAt (opens : openAt files directory text = (remaining, .ok database))
    (inMemory : database.path = none) : database = { path := none, tables := .new } := by
  obtain ⟨-, new, writable⟩ := reopened_of_memory (isAt_of_openAt opens) inMemory opens
  obtain ⟨_, opened, -, -, updated⟩ := openAt_eq_ok opens
  have isOpen := ofOpened_isClosed updated
  rcases database with ⟨path, tables, isClosed, writeFault⟩
  cases inMemory
  cases new
  cases isOpen
  cases writable
  rfl

/-- The way to a database that was opened is open. -/
theorem lasts_of_openAt (opens : openAt files directory text = (remaining, .ok database)) :
    Lasts directory text remaining database := by
  obtain ⟨location, opened, understood, found, updated⟩ := openAt_eq_ok opens
  have saved : remaining = database.save files := by
    simp only [openAt, understood, found, updated, Prod.mk.injEq] at opens
    exact opens.1.symm
  intro other same current
  cases kept : database.path with
  | none =>
    have unsaved (written : Database) (inMemory : written.path = none) :
        written.save remaining = remaining := by
      rw [save, inMemory]
    have unchanged : remaining = files := by rw [saved, save, kept]
    have new := eq_new_of_openAt opens kept
    have inMemory : other.path = none := same.path.trans kept
    have writable : other.writeFault = none := by rw [same.writeFault, new]
    rw [unsaved other inMemory, unchanged, opens, unchanged, new, reopened, inMemory, writable]
    rfl
  | some path =>
    have inFile : other.path = some path := same.path.trans kept
    have stored := (ofOpened_path updated).mp kept
    obtain ⟨fileName, access, isReadOnly, place, -, always⟩ :=
      Opened.ofLocation_of_file found stored
    have written : other.save remaining = files.put path (.database other.tables) := by
      rw [saved, save_save files same.path, save, inFile]
    have foundAgain := found
    rw [always] at foundAgain
    have again := Opened.ofFile_put foundAgain (ofOpened_again updated) other.tables
    rw [← place, ← always] at again
    have updatedAgain : ofOpened { opened with tables := other.tables, secondFault := none } =
        (other.reopened, none) := by
      rw [reopened_of_path inFile, same.writeFault, ofOpened_writeFault updated]
      exact ofOpened_of_isCurrent stored current rfl
    have savedAgain : other.reopened.save (files.put path (.database other.tables)) =
        files.put path (.database other.tables) := by
      rw [save_reopened, save, inFile]
      exact Files.put_put files path _ _
    rw [written]
    simp only [openAt, understood, again, updatedAgain, savedAgain]

end SessionServer.Database
