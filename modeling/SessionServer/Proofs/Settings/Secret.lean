import SessionServer.Proofs.Text.Blank
import SessionServer.Proofs.Text.Utf8
import SessionServer.Settings.Secret

/-!
Which secret is loaded, told without following the places in the order in which they are looked at. A
variable that holds a text decides alone, and is taken away. One whose octets are no text is passed over as
if it were not set, and is left where others can read it.
-/

namespace SessionServer.Settings.Secret

/-- Whether a variable is set, and its octets are those of a text. -/
def HoldsText (environment : Option Bytes) : Prop := ∃ text, environment = some (Utf8.ofString text)

/-- What can become the secret: the text of the variable and nothing else, or without such a text the one in
the file, less the blanks around it. -/
inductive Offers (environment : Option Bytes) (file : Option (String × File)) : String → Prop where
  | ofVariable {secret : String} (holds : environment = some (Utf8.ofString secret)) :
      Offers environment file secret
  | ofFile {path text secret : String} (unread : ¬ HoldsText environment)
      (stands : file = some (path, .content (Utf8.ofString text)))
      (padded : Text.IsPadded text.toList secret.toList) : Offers environment file secret

variable {environment : Option Bytes} {file : Option (String × File)} {text secret : String}

theorem check_eq_ok_iff :
    check text = .ok secret ↔ text = secret ∧ 32 ≤ (Utf8.ofString secret).length := by
  unfold check minLength
  rw [Utf8.length_ofString]
  split
  next short =>
    constructor
    · intro checked
      cases checked
    · rintro ⟨rfl, long⟩
      omega
  next long =>
    rw [Except.ok.injEq]
    constructor
    · rintro rfl
      exact ⟨rfl, by omega⟩
    · exact And.left

theorem File.text_eq_ok_iff {stored : File} :
    stored.text = .ok text ↔ stored = .content (Utf8.ofString text) := by
  cases stored with
  | content octets =>
    rw [File.content.injEq, ← Utf8.toString?_eq_some_iff, File.text]
    cases Utf8.toString? octets with
    | none => simp only [reduceCtorEq]
    | some found => simp only [Except.ok.injEq, Option.some.injEq]
  | missing | directory | beyondFile | nameTooLong => simp only [File.text, reduceCtorEq]

theorem trimmed_eq_iff :
    Text.trimmed text = secret ↔ Text.IsPadded text.toList secret.toList := by
  rw [← Text.trim_eq_iff, ← String.toList_inj, Text.trimmed, String.toList_ofList]

theorem ofFile_eq_ok_iff {path : String} {stored : File} :
    ofFile path stored = .ok secret ↔
      (∃ text, stored = .content (Utf8.ofString text) ∧ Text.IsPadded text.toList secret.toList) ∧
        32 ≤ (Utf8.ofString secret).length := by
  simp only [← File.text_eq_ok_iff, ← trimmed_eq_iff, ofFile]
  cases stored.text with
  | error fault => simp only [reduceCtorEq, false_and, exists_false]
  | ok found => simp only [check_eq_ok_iff, Except.ok.injEq, exists_eq_left']

theorem bind_toString?_eq_some_iff :
    environment.bind Utf8.toString? = some text ↔ environment = some (Utf8.ofString text) := by
  simp only [Option.bind_eq_some_iff, Utf8.toString?_eq_some_iff, exists_eq_right]

theorem bind_toString?_eq_none_iff :
    environment.bind Utf8.toString? = none ↔ ¬ HoldsText environment := by
  simp only [HoldsText, ← bind_toString?_eq_some_iff, ← Option.isSome_iff_exists,
    Option.not_isSome_iff_eq_none]

/-- Where the variable holds a text, the file does not matter. -/
theorem load_of_text (text : String) (file : Option (String × File)) :
    load (some (Utf8.ofString text)) file = { secret := check text, variableStays := false } := by
  have read : (some (Utf8.ofString text)).bind Utf8.toString? = some text :=
    bind_toString?_eq_some_iff.mpr rfl
  simp only [load, read]

section
variable (unread : ¬ HoldsText environment)
include unread

theorem variableStays_of_unread : (load environment file).variableStays = environment.isSome := by
  simp only [load, bind_toString?_eq_none_iff.mpr unread]

theorem secret_of_unread : (load environment file).secret = .ok secret ↔
    ∃ path stored, file = some (path, stored) ∧ ofFile path stored = .ok secret := by
  simp only [load, bind_toString?_eq_none_iff.mpr unread]
  cases file with
  | none => simp only [reduceCtorEq, false_and, exists_false]
  | some found =>
    obtain ⟨path, stored⟩ := found
    constructor
    · intro read
      exact ⟨path, stored, rfl, read⟩
    · rintro ⟨path, stored, ⟨⟩, read⟩
      exact read

end

/-- Only what is no text stays in the environment. -/
theorem variableStays_iff : (load environment file).variableStays = true ↔
    environment.isSome = true ∧ ¬ HoldsText environment := by
  by_cases held : HoldsText environment
  · have gone : (load environment file).variableStays = false := by
      obtain ⟨text, rfl⟩ := held
      rw [load_of_text]
    simp only [gone, held, Bool.false_eq_true, not_true_eq_false, and_false]
  · rw [variableStays_of_unread held, and_iff_left held]

/-- What is offered becomes the secret unless it is too short. -/
theorem secret_eq_ok_iff : (load environment file).secret = .ok secret ↔
    Offers environment file secret ∧ 32 ≤ (Utf8.ofString secret).length := by
  constructor
  · intro loaded
    by_cases held : HoldsText environment
    · obtain ⟨text, rfl⟩ := held
      rw [load_of_text] at loaded
      obtain ⟨rfl, long⟩ := check_eq_ok_iff.mp loaded
      exact ⟨.ofVariable rfl, long⟩
    · obtain ⟨path, stored, rfl, read⟩ := (secret_of_unread held).mp loaded
      obtain ⟨⟨text, rfl, padded⟩, long⟩ := ofFile_eq_ok_iff.mp read
      exact ⟨.ofFile held rfl padded, long⟩
  · rintro ⟨offers, long⟩
    cases offers with
    | ofVariable holds =>
      rw [holds, load_of_text]
      exact check_eq_ok_iff.mpr ⟨rfl, long⟩
    | ofFile unread stands padded =>
      exact (secret_of_unread unread).mpr ⟨_, _, stands, ofFile_eq_ok_iff.mpr ⟨⟨_, rfl, padded⟩, long⟩⟩

/-- Whatever the variable and the file hold, the secret is what they offer, and has 32 octets at least. A
text in the variable becomes the secret or leaves none, whatever the file holds, and is removed; octets that
are no text stay, and do not count. -/
theorem load_prefers_variable (environment : Option Bytes) (file : Option (String × File)) :
    let loaded := load environment file
    (loaded.variableStays = true ↔ environment.isSome = true ∧ ¬ HoldsText environment) ∧
      (∀ secret, loaded.secret = .ok secret ↔
        Offers environment file secret ∧ 32 ≤ (Utf8.ofString secret).length) ∧
      ∀ text, environment = some (Utf8.ofString text) →
        loaded.variableStays = false ∧
          (loaded.secret = .ok text ∨ loaded.secret = .error .tooShort) ∧
          ∀ other, load environment other = loaded := by
  intro loaded
  refine ⟨variableStays_iff, fun secret => secret_eq_ok_iff, ?_⟩
  rintro text rfl
  have alone (other : Option (String × File)) := load_of_text text other
  refine ⟨congrArg Loaded.variableStays (alone file), ?_, ?_⟩
  · have same : loaded.secret = check text := congrArg Loaded.secret (alone file)
    rw [same, check]
    split
    next => exact .inr rfl
    next => exact .inl rfl
  · intro other
    exact (alone other).trans (alone file).symm

/-- A key of 32 characters. -/
def key : String := "0123456789abcdef0123456789abcdef"

/-- Another key, with a line end behind it. -/
def otherKey : String := "ffffffffffffffffffffffffffffffff\n"

/-- With two good keys, the one in the variable is used. -/
theorem load_prefers_variable_twoKeys :
    let loaded := load (some (Utf8.ofString key)) (some ("key", .content (Utf8.ofString otherKey)))
    loaded.secret = .ok key ∧ loaded.variableStays = false := by
  intro loaded
  obtain ⟨-, decided, alone⟩ := load_prefers_variable (some (Utf8.ofString key))
    (some ("key", .content (Utf8.ofString otherKey)))
  obtain ⟨gone, -, -⟩ := alone key rfl
  exact ⟨(decided key).mpr ⟨.ofVariable rfl, by decide⟩, gone⟩

/-- A variable that is set, and whose octets are no text, stays set, and the file's key is used. -/
theorem load_of_unreadable :
    let octets : Bytes := List.replicate 32 0xFF
    let text := "ffffffffffffffffffffffffffffffff"
    let loaded := load (some octets) (some ("key", .content (Utf8.ofString text)))
    loaded.variableStays = true ∧ loaded.secret = .ok text ∧ Utf8.ofString text ≠ octets := by
  intro octets text loaded
  have unread : ¬ HoldsText (some octets) := bind_toString?_eq_none_iff.mp (by decide)
  have padded : Text.IsPadded text.toList text.toList := Text.trim_eq_iff.mp (by decide)
  exact ⟨variableStays_iff.mpr ⟨rfl, unread⟩,
    secret_eq_ok_iff.mpr ⟨.ofFile unread rfl padded, by decide⟩, by decide⟩

end SessionServer.Settings.Secret
