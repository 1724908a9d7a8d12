import SessionServer.Proofs.Database.Migration
import SessionServer.Proofs.Text.Blank
import SessionServer.Proofs.Text.Percent
import SessionServer.Proofs.Text.Split

/-!
Which file an operator's path names. A path that means itself as a location leads to the file of its last
name, and no other name in the same directory leads there.
-/

namespace SessionServer.Database

namespace Location
open Text.Percent (IsPlain)

/-- Whether a path means itself when it becomes part of a location: no parameters, no octets in percent
signs, no zero character, and nothing in front that is taken off or makes it an identifier. -/
structure IsLiteral (path : String) : Prop where
  no_query : '?' ∉ path.toList
  no_escape : IsPlain path.toList
  no_zero : '\x00' ∉ path.toList
  no_host : ¬ "//".toList <+: path.toList
  no_scheme : ¬ "sqlite:".toList <+: path.toList
  no_identifier : ¬ "file:".toList <+: path.toList

theorem stripAll_of_not_prefix {start chars : List Char} (absent : ¬ start <+: chars) (fuel : Nat) :
    stripAll start fuel chars = chars := by
  cases fuel with
  | zero => rfl
  | succ fuel => rw [stripAll, if_neg (by rwa [List.isPrefixOf_iff_prefix])]

theorem stripAll_append {start rest : List Char} (absent : ¬ start <+: rest) {fuel : Nat}
    (enough : fuel ≠ 0) : stripAll start fuel (start ++ rest) = rest := by
  obtain ⟨more, rfl⟩ := Nat.exists_eq_succ_of_ne_zero enough
  have begins : start.isPrefixOf (start ++ rest) = true :=
    List.isPrefixOf_iff_prefix.mpr (List.prefix_append start rest)
  rw [stripAll, if_pos begins, List.drop_left, stripAll_of_not_prefix absent]

/-- A text that begins with some characters does so in front of the first character that is none of them. -/
theorem prefix_of_append_cons {start path more : List Char} {c : Char} (absent : c ∉ start)
    (begins : start <+: path ++ c :: more) : start <+: path := by
  rcases List.prefix_or_prefix_of_prefix begins (List.prefix_append path (c :: more)) with short | long
  · exact short
  · obtain ⟨rest, rfl⟩ := long
    rw [List.prefix_append_right_inj] at begins
    cases rest with
    | nil => rw [List.append_nil]
    | cons d rest =>
      obtain ⟨rfl, -⟩ := List.cons_prefix_cons.mp begins
      exact absurd (List.mem_append_right path List.mem_cons_self) absent

theorem named_of_isPlain {path : String} (plain : IsPlain path.toList) (other : path.toList ≠ memoryName) :
    named path.toList = .ok { name := path } := by
  have read : Utf8.toString? (Utf8.encode path.toList) = some path := Utf8.toString?_ofString path
  simp only [named, if_neg other, Text.Percent.decode_encode plain, read]

/-- A path that means itself is the name of its location, and its file is made if it is not there. -/
theorem ofPath_of_isLiteral {path : String} (literal : IsLiteral path) (slash : '/' ∈ path.toList) :
    ofPath path = .ok { name := path, create := true } := by
  have other : path.toList ≠ memoryName := by
    intro same
    rw [same] at slash
    exact absurd slash (by decide)
  have notMemory : path ≠ ":memory:" := fun same => other (congrArg String.toList same)
  have written : text path = scheme ++ (path.toList ++ '?' :: "mode=rwc".toList) := by
    have query : "?mode=rwc".toList = '?' :: "mode=rwc".toList := by decide
    rw [text, if_neg notMemory, List.append_assoc, query]
  -- Neither the end of the scheme nor the query can be part of something that is taken off.
  have hostless : ¬ scheme ++ "//".toList <+: scheme ++ (path.toList ++ '?' :: "mode=rwc".toList) := by
    rw [List.prefix_append_right_inj]
    exact fun begins => literal.no_host (prefix_of_append_cons (by decide) begins)
  have schemeless : ¬ scheme <+: path.toList ++ '?' :: "mode=rwc".toList :=
    fun begins => literal.no_scheme (prefix_of_append_cons (by decide) begins)
  have mode : Text.Percent.parameters "mode=rwc".toList = [("mode", "rwc")] := by decide +kernel
  have enough : (scheme ++ (path.toList ++ '?' :: "mode=rwc".toList)).length ≠ 0 := by
    rw [List.length_append]
    exact Nat.ne_of_gt (Nat.add_pos_left (by decide) _)
  simp only [ofPath, written, parse, stripAll_of_not_prefix hostless, stripAll_append schemeless enough,
    Text.splitOnce_append _ literal.no_query, named_of_isPlain literal.no_escape other, mode]
  rfl

end Location

open Location (IsLiteral)

/-- The engine takes the name as it is. -/
theorem FileName.ofLocation_of_isLiteral {path : String} (literal : IsLiteral path) :
    ofLocation { name := path, create := true } = .ok { octets := Utf8.ofString path } := by
  have whole : 0 ∉ Utf8.ofString path := fun member =>
    literal.no_zero (Utf8.mem_of_mem_encode (b := 0) (by decide) member)
  have ascii : ∀ c ∈ "file:".toList, c.toNat < 0x80 := by simp
  have other : ¬ scheme.isPrefixOf (Utf8.ofString path) = true := by
    rw [List.isPrefixOf_iff_prefix]
    exact fun begins => literal.no_identifier (Utf8.prefix_of_encode ascii begins)
  show (if 0 ∈ Utf8.ofString path then Except.error Error.zeroInName else if _ then _ else _) = _
  rw [if_neg whole, if_neg other]

theorem FileName.text_ofString (name : String) : text (Utf8.ofString name) = name := by
  rw [text, Utf8.ofString, Utf8.decodeLossy_encode, String.ofList_toList]

/-- A path that means itself is opened as the file of its text, which is made if it is not there. -/
theorem Opened.ofLocation_of_isLiteral {path : String} (literal : IsLiteral path)
    (slash : '/' ∈ path.toList) (files : Files) (directory : Path) :
    ofLocation files directory { name := path, create := true } =
      ofFile files directory { octets := Utf8.ofString path } .create false := by
  have named (other : String) (slashless : '/' ∉ other.toList) : Utf8.ofString path ≠ Utf8.ofString other := by
    intro same
    rw [Utf8.ofString_injective same] at slash
    exact slashless slash
  have notMemory : Utf8.ofString path ≠ Utf8.encode Location.memoryName :=
    named ":memory:" (by decide)
  have nonempty : Utf8.ofString path ≠ [] := named "" (by decide)
  have opening : Opening.ofFileName { name := path, create := true } { octets := Utf8.ofString path } =
      .ok { access := .create, inMemory := false, shared := false, fileSystem := Utf8.ofString "unix" } :=
    rfl
  have onDisk : Utf8.ofString "unix" ≠ Opening.memorySystem := by decide
  simp only [ofLocation, FileName.ofLocation_of_isLiteral literal, opening, ofFileName]
  rw [if_neg (not_or.mpr ⟨Bool.false_ne_true, notMemory⟩), if_neg nonempty, if_neg onDisk]
  rfl

namespace Path

variable {path : Path} {name : String}

theorem names_append (first rest : String) : names (first ++ "/" ++ rest) = names first ++ names rest := by
  have slash : "/".toList = ['/'] := by decide
  rw [names, String.toList_append, String.toList_append, slash, List.append_assoc, List.singleton_append,
    Text.splitAll_append, List.map_append]
  rfl

theorem names_of_single (single : '/' ∉ name.toList) : names name = [name] := by
  rw [names, Text.splitAll_of_not_mem single, List.map_singleton, String.ofList_toList]

theorem start_append (directory : Path) (first rest : String) :
    start directory (first ++ "/" ++ rest) = start directory (first ++ "/") := by
  have same : (first ++ "/" ++ rest).toList.head? = (first ++ "/").toList.head? := by
    have slash : "/".toList = ['/'] := by decide
    rw [String.toList_append, String.toList_append, slash]
    cases first.toList <;> rfl
  rw [start, start, same]

theorem enter_of_isProper (proper : isProper name = true) : path.enter name = path ++ [name] := by
  simp only [isProper, Bool.and_eq_true, decide_eq_true_eq] at proper
  obtain ⟨⟨nonempty, noDot⟩, noDots⟩ := proper
  rw [enter, if_neg (not_or.mpr ⟨nonempty, noDot⟩), if_neg noDots]

theorem child_ne_child {first second : String} (apart : first ≠ second) (directory : Path) :
    directory ++ [first] ≠ directory ++ [second] :=
  fun same => apart (List.singleton_inj.mp (List.append_cancel_left same))

theorem ne_child (directory : Path) (name : String) : directory ≠ directory ++ [name] := by
  intro same
  have lengths := congrArg List.length same
  rw [List.length_append, List.length_singleton] at lengths
  omega

theorem slash_mem (first rest : String) : '/' ∈ (first ++ "/" ++ rest).toList := by
  have slash : "/".toList = ['/'] := by decide
  rw [String.toList_append, String.toList_append, slash]
  simp

end Path

namespace Files

variable {files first second : Files} {path found directory : Path} {names rest : List String}
  {name start : String}

theorem walkFrom_append (files : Files) (path : Path) (names rest : List String) :
    files.walkFrom path (names ++ rest) =
      (files.walkFrom path names).bind fun found => files.walkFrom found rest := by
  induction names generalizing path with
  | nil => rfl
  | cons name names ih =>
    simp only [List.cons_append, walkFrom, ih]
    cases files.find? path with
    | none => rfl
    | some entry =>
      cases entry with
      | directory =>
        simp only
        split
        next => rfl
        next =>
          split
          next => rfl
          next => rfl
      | plain => rfl
      | database => rfl

theorem find?_of_walkFrom_cons (walked : files.walkFrom path (name :: names) = .ok found) :
    files.find? path = some .directory ∧
      ¬ (Path.isProper name && Path.maxNameLength < name.utf8ByteSize) = true ∧
      files.walkFrom (path.enter name) names = .ok found := by
  simp only [walkFrom] at walked
  split at walked
  next => cases walked
  next there =>
    split at walked
    next => cases walked
    next short =>
      split at walked
      next => exact ⟨there, short, walked⟩
      next => cases walked
  next => cases walked

theorem eq_of_walkFrom (walked : files.walkFrom path names = .ok found) :
    found = names.foldl Path.enter path := by
  induction names generalizing path with
  | nil => exact (Except.ok.inj walked).symm
  | cons name names ih => exact ih (find?_of_walkFrom_cons walked).2.2

/-- The engine follows names alike where all directories on the way are there. -/
theorem resolveFrom?_of_walkFrom (walked : first.walkFrom path names = .ok found)
    (alsoWalked : second.walkFrom path names = .ok found)
    (behind : first.resolveFrom? found rest = second.resolveFrom? found rest) :
    first.resolveFrom? path (names ++ rest) = second.resolveFrom? path (names ++ rest) := by
  induction names generalizing path with
  | nil =>
    cases walked
    exact behind
  | cons name names ih =>
    obtain ⟨there, -, onward⟩ := find?_of_walkFrom_cons walked
    obtain ⟨alsoThere, -, alsoOnward⟩ := find?_of_walkFrom_cons alsoWalked
    simp only [List.cons_append, resolveFrom?, there, alsoThere, ih onward alsoOnward]

/-- Where the text in front of a last name leads. -/
theorem walkFrom_of_walk (walked : files.walk path (start ++ "/") = .ok directory) :
    files.walkFrom (Path.start path (start ++ "/")) (Path.names start) = .ok directory ∧
      files.find? directory = some .directory := by
  have pieces : Path.names (start ++ "/") = Path.names start ++ [""] := by
    have cut := Path.names_append start ""
    rwa [String.append_empty] at cut
  have onward := eq_ok_of_check (eq_ok_of_check walked)
  rw [pieces, walkFrom_append] at onward
  cases reached : files.walkFrom (Path.start path (start ++ "/")) (Path.names start) with
  | error fault =>
    rw [reached] at onward
    cases onward
  | ok found =>
    rw [reached] at onward
    obtain ⟨there, -, last⟩ := find?_of_walkFrom_cons onward
    obtain rfl : found = directory := Except.ok.inj last
    exact ⟨rfl, there⟩

end Files

/-- Whether a path means itself and consists of a directory that is there and of a name in it. -/
structure Names (files : Files) (current directory : Path) (start name : String) : Prop where
  literal : IsLiteral (start ++ "/" ++ name)
  reached : files.walk current (start ++ "/") = .ok directory
  single : '/' ∉ name.toList
  proper : Path.isProper name = true

namespace Names

variable {files others : Files} {current directory : Path} {start name : String} {opened : Opened}
  (names : Names files current directory start name)
include names

theorem ofText : Path.ofText current (start ++ "/" ++ name) = directory ++ [name] := by
  obtain ⟨walked, -⟩ := Files.walkFrom_of_walk names.reached
  rw [Path.ofText, Path.start_append, Path.names_append, Path.names_of_single names.single,
    List.foldl_append, ← Files.eq_of_walkFrom walked, List.foldl_cons, List.foldl_nil,
    Path.enter_of_isProper names.proper]

theorem find?_directory : files.find? directory = some .directory :=
  (Files.walkFrom_of_walk names.reached).2

/-- Which path the engine resolves does not depend on the files, if they have the directory. -/
theorem resolve?_eq (reached : others.walk current (start ++ "/") = .ok directory) :
    files.resolve? current (start ++ "/" ++ name) = others.resolve? current (start ++ "/" ++ name) := by
  obtain ⟨walked, there⟩ := Files.walkFrom_of_walk names.reached
  obtain ⟨alsoWalked, alsoThere⟩ := Files.walkFrom_of_walk reached
  have behind : files.resolveFrom? directory [name] = others.resolveFrom? directory [name] := by
    simp only [Files.resolveFrom?, there, alsoThere]
  have same := Files.resolveFrom?_of_walkFrom walked alsoWalked behind
  rw [Files.resolve?, Files.resolve?, Path.start_append, Path.names_append,
    Path.names_of_single names.single, same]

theorem eq_of_resolve? {path : Path}
    (resolved : others.resolve? current (start ++ "/" ++ name) = some path) : path = directory ++ [name] :=
  (Files.eq_of_resolve? resolved).1.trans names.ofText

/-- A file of the name is found by a second connection as it is by the first one. -/
theorem reconnectFault_eq (reached : others.walk current (start ++ "/") = .ok directory)
    (isFile : others.find? (directory ++ [name]) ≠ some .directory) :
    Opened.reconnectFault others current (start ++ "/" ++ name) (directory ++ [name]) =
      if files.resolve? current (start ++ "/" ++ name) = some (directory ++ [name]) then none
      else some .cannotOpen := by
  rw [Opened.reconnectFault, ← names.resolve?_eq (Files.walk_put isFile _ reached)]

theorem ofLocation_eq (others : Files) :
    Opened.ofLocation others current { name := start ++ "/" ++ name, create := true } =
      Opened.ofFile others current { octets := Utf8.ofString (start ++ "/" ++ name) } .create false :=
  Opened.ofLocation_of_isLiteral names.literal (Path.slash_mem start name) others current

/-- What is opened is kept in the file of the name. -/
theorem storage_eq
    (opens : Opened.ofLocation files current { name := start ++ "/" ++ name, create := true } = .ok opened) :
    opened.storage = .file (directory ++ [name]) := by
  rw [names.ofLocation_eq] at opens
  obtain ⟨-, stored, -⟩ := Opened.ofFile_eq_ok opens
  rw [stored, FileName.text_ofString, names.ofText]

/-- What is opened under a name that is not there: a new file of that name. -/
theorem opened_of_absent (absent : files.find? (directory ++ [name]) = none)
    (opens : Opened.ofLocation files current { name := start ++ "/" ++ name, create := true } = .ok opened) :
    opened =
      { storage := .file (directory ++ [name])
        writeFault := if Path.allowsJournal (directory ++ [name]) then none else some .cannotOpen } := by
  rw [names.ofLocation_eq] at opens
  obtain ⟨path, tables, resolved, -, read, rfl⟩ := Opened.ofFile_eq_ok_iff.mp opens
  rw [FileName.text_ofString] at resolved ⊢
  obtain rfl := names.eq_of_resolve? resolved
  have isFile : files.find? (directory ++ [name]) ≠ some .directory := by
    rw [absent]
    exact (Option.some_ne_none _).symm
  have new : tables = Tables.empty := by
    simp only [Opened.tablesAt, absent, List.dropLast_concat, names.find?_directory, if_true] at read
    exact (Except.ok.inj read).symm
  rw [names.reconnectFault_eq names.reached isFile, if_pos resolved, new]
  rfl

/-- A database is opened in the same way, whatever stands in its directory under another name. -/
theorem ofLocation_put {other : String} (apart : name ≠ other) (entry : Entry)
    (isFile : files.find? (directory ++ [other]) ≠ some .directory) :
    Opened.ofLocation (files.put (directory ++ [other]) entry) current
        { name := start ++ "/" ++ name, create := true } =
      Opened.ofLocation files current { name := start ++ "/" ++ name, create := true } := by
  have here := Files.find?_put_of_ne files (Path.child_ne_child apart directory) entry
  have above := Files.find?_put_of_ne files (Path.ne_child directory other) entry
  have reached := Files.walk_put isFile entry names.reached
  rw [names.ofLocation_eq, names.ofLocation_eq]
  unfold Opened.ofFile
  rw [FileName.text_ofString, ← names.resolve?_eq reached]
  cases resolved : files.resolve? current (start ++ "/" ++ name) with
  | none => rfl
  | some path =>
    obtain rfl := names.eq_of_resolve? resolved
    have reads : Opened.tablesAt (files.put (directory ++ [other]) entry) (directory ++ [name]) .create =
        Opened.tablesAt files (directory ++ [name]) .create := by
      simp only [Opened.tablesAt, here, List.dropLast_concat, above]
    cases read : Opened.tablesAt files (directory ++ [name]) .create with
    | error error =>
      simp only [reads, read]
      rfl
    | ok tables =>
      have notDirectory := Opened.find?_ne_directory_of_tablesAt read
      have notDirectoryThen := notDirectory
      rw [← here] at notDirectoryThen
      simp only [reads, read, names.reconnectFault_eq names.reached notDirectory,
        names.reconnectFault_eq reached notDirectoryThen]
      rfl

theorem understood : Location.ofPath (start ++ "/" ++ name) =
    .ok { name := start ++ "/" ++ name, create := true } :=
  Location.ofPath_of_isLiteral names.literal (Path.slash_mem start name)

/-- What becomes of a name that is not there. If its journal cannot be named, an empty file is left. -/
theorem openAt_of_absent (absent : files.find? (directory ++ [name]) = none) :
    let path := directory ++ [name]
    let opens := openAt files current (start ++ "/" ++ name)
    (∃ error, opens = (files, .error error)) ∨
      (¬ Path.allowsJournal path = true ∧
        opens = (files.put path (.database Tables.empty), .error .cannotOpen)) ∨
      opens = (files.put path (.database .new), .ok { path := some path, tables := .new }) := by
  intro path opens
  cases found : Opened.ofLocation files current { name := start ++ "/" ++ name, create := true } with
  | error error => exact .inl ⟨error, openAt_of_fault names.understood found⟩
  | ok opened =>
    have made : opens = _ := openAt_of_found names.understood found
    obtain rfl := names.opened_of_absent absent found
    rw [made]
    by_cases journal : path.allowsJournal = true
    · refine .inr (.inr ?_)
      rw [if_pos journal]
      rfl
    · refine .inr (.inl ⟨journal, ?_⟩)
      rw [if_neg journal]
      rfl

/-- What stands under another name is neither seen nor changed. -/
theorem openAt_put {other : String} (apart : name ≠ other) (tables : Tables)
    (isFile : files.find? (directory ++ [other]) ≠ some .directory) :
    let written := files.put (directory ++ [other]) (.database tables)
    let opens := openAt written current (start ++ "/" ++ name)
    opens.2 = (openAt files current (start ++ "/" ++ name)).2 ∧
      opens.1.find? (directory ++ [other]) = some (.database tables) := by
  intro written opens
  have proper : directory ++ [other] ≠ [] :=
    List.append_ne_nil_of_right_ne_nil _ (List.cons_ne_nil _ _)
  have kept : written.find? (directory ++ [other]) = some (.database tables) :=
    Files.find?_put files proper _
  have same := names.ofLocation_put apart (.database tables) isFile
  cases found : Opened.ofLocation files current { name := start ++ "/" ++ name, create := true } with
  | error error =>
    have fails : opens = _ := openAt_of_fault names.understood (same.trans found)
    rw [fails, openAt_of_fault names.understood found]
    exact ⟨rfl, kept⟩
  | ok opened =>
    have finds : opens = _ := openAt_of_found names.understood (same.trans found)
    have placed : (ofOpened opened).1.path = some (directory ++ [name]) :=
      (ofOpened_path rfl).mpr (names.storage_eq found)
    rw [finds, openAt_of_found names.understood found]
    refine ⟨rfl, ?_⟩
    rw [save, placed]
    exact (Files.find?_put_of_ne _ (Path.child_ne_child apart.symm directory) _).trans kept

end Names

/-- Opening a path that means itself, and whose name is not there, makes the file of exactly this name or
none at all; and no other name leads to its tables, or changes them. -/
theorem opens_named_file {files : Files} {current directory : Path} {start name : String}
    (names : Names files current directory start name)
    (absent : files.find? (directory ++ [name]) = none) :
    let path := directory ++ [name]
    let opens := openAt files current (start ++ "/" ++ name)
    ((∃ error, opens = (files, .error error)) ∨
      (¬ Path.allowsJournal path = true ∧
        opens = (files.put path (.database Tables.empty), .error .cannotOpen)) ∨
      opens = (files.put path (.database .new), .ok { path := some path, tables := .new })) ∧
    ∀ other tables, Names files current directory start other → other ≠ name →
      let written := files.put path (.database tables)
      let others := openAt written current (start ++ "/" ++ other)
      others.2 = (openAt files current (start ++ "/" ++ other)).2 ∧
        others.1.find? path = some (.database tables) := by
  intro path opens
  refine ⟨names.openAt_of_absent absent, ?_⟩
  intro other tables otherNames apart
  have isFile : files.find? path ≠ some .directory := by
    rw [absent]
    exact (Option.some_ne_none _).symm
  exact otherNames.openAt_put apart tables isFile

/-- Files with a directory and nothing in it. -/
def dataDirectory : Files := { entries := [(["data"], .directory)] }

theorem names_dataDirectory {name : String} (literal : IsLiteral ("/data/" ++ name))
    (single : '/' ∉ name.toList) (proper : Path.isProper name = true) :
    Names dataDirectory [] ["data"] "/data" name where
  literal := literal
  reached := eq_ok_of_toOption (by decide +kernel)
  single := single
  proper := proper

/-- What was written under one name is not found under another one. -/
theorem opens_named_file_dataDirectory :
    let written := dataDirectory.put ["data", "ada.db"] (.database unversioned)
    dataDirectory.find? ["data", "ada.db"] = none ∧
      (openAt written [] "/data/eve.db").2 = (openAt dataDirectory [] "/data/eve.db").2 ∧
      (openAt written [] "/data/eve.db").1.find? ["data", "ada.db"] = some (.database unversioned) := by
  have ada : Names dataDirectory [] ["data"] "/data" "ada.db" :=
    names_dataDirectory
      ⟨by decide, Text.Percent.isPlain_of_not_mem (by decide), by decide, by decide, by decide, by decide⟩
      (by decide) (by decide)
  have eve : Names dataDirectory [] ["data"] "/data" "eve.db" :=
    names_dataDirectory
      ⟨by decide, Text.Percent.isPlain_of_not_mem (by decide), by decide, by decide, by decide, by decide⟩
      (by decide) (by decide)
  have absent : dataDirectory.find? ["data", "ada.db"] = none := by decide
  obtain ⟨-, apart⟩ := opens_named_file ada absent
  exact ⟨absent, apart "eve.db" unversioned eve (by decide)⟩

/-- A new database at the path of one name. -/
def escaped : Database := { path := some ["data", "ab"], tables := .new }

/-- The same database with an account. -/
def escapedWritten : Database := (escaped.createAccount "ada@example.org" "Ada" "hash").1

/-- A name with a percent sign opens the file of another name, where its accounts are found. -/
theorem escaped_name_shares_file :
    dataDirectory.find? ["data", "a%62"] = none ∧
      openAt dataDirectory [] "/data/a%62" = (escaped.save dataDirectory, .ok escaped) ∧
      (escaped.save dataDirectory).find? ["data", "a%62"] = none ∧
      openAt (escapedWritten.save dataDirectory) [] "/data/ab" =
        (escapedWritten.save dataDirectory, .ok escapedWritten) ∧
      escapedWritten.accountById 1 =
        .ok (some { id := 1, email := "ada@example.org", displayName := "Ada", passwordHash := "hash" }) := by
  refine ⟨by decide, Prod.ext ?_ (eq_ok_of_toOption ?_), by decide, Prod.ext ?_ (eq_ok_of_toOption ?_),
    eq_ok_of_toOption ?_⟩
  all_goals decide +kernel

end SessionServer.Database
