import SessionServer.Proofs.Credential.Cookie

/-!
Which token a request presents, told without reading the fields step by step: the first session cookie with
a value in a field that can be read, and only without any the token behind the bearer scheme. One octet that
cannot be read hides all the cookies of its field.
-/

namespace SessionServer.Credential
open Text (trim)

namespace Cookie

/-- Whether a part of a cookie field is a session cookie with a value. -/
def Holds (part value : List Char) : Prop :=
  ∃ name rest, trim part = name ++ '=' :: rest ∧ '=' ∉ name ∧ trim name = sessionName.toList ∧
    trim rest = value ∧ value ≠ []

/-- Whether a value is that of the first session cookie with a value in the fields that can be read. -/
def Leads (headers : Http.Headers) (value : List Char) : Prop :=
  ∃ front part back, parts headers = front ++ part :: back ∧ Holds part value ∧
    ∀ other ∈ front, ∀ value, ¬ Holds other value

theorem holds_iff {part value : List Char} :
    Holds part value ↔ pair? part = some (sessionName.toList, value) ∧ value ≠ [] := by
  unfold pair?
  rw [Option.map_eq_some_iff]
  constructor
  · rintro ⟨name, rest, whole, absent, named, valued, nonempty⟩
    refine ⟨⟨(name, rest), Text.splitOnce_eq_some_iff.mpr ⟨whole, absent⟩, ?_⟩, nonempty⟩
    rw [← named, ← valued]
  · rintro ⟨⟨⟨name, rest⟩, cut, same⟩, nonempty⟩
    obtain ⟨whole, absent⟩ := Text.splitOnce_eq_some cut
    exact ⟨name, rest, whole, absent, congrArg Prod.fst same, congrArg Prod.snd same, nonempty⟩

theorem isForeign_iff {part : List Char} : IsForeign part ↔ ∀ value, ¬ Holds part value := by
  constructor
  · intro foreign value holds
    obtain ⟨cut, nonempty⟩ := holds_iff.mp holds
    exact nonempty (foreign _ cut rfl)
  · rintro none ⟨name, value⟩ cut rfl
    by_cases empty : value = []
    · exact empty
    · exact absurd (holds_iff.mpr ⟨cut, empty⟩) (none value)

variable {headers : Http.Headers} {value : List Char}

theorem find?_of_leads (leads : Leads headers value) :
    find? headers sessionName = some (String.ofList value) := by
  obtain ⟨front, part, back, sent, holds, foreign⟩ := leads
  obtain ⟨cut, nonempty⟩ := holds_iff.mp holds
  rw [find?, allPairs_eq_filterMap, sent, List.filterMap_append, List.findSome?_append,
    findSome?_of_isForeign fun other member => isForeign_iff.mpr (foreign other member),
    Option.none_or, List.filterMap_cons_some cut, List.findSome?_cons, if_pos ⟨rfl, nonempty⟩]

/-- There is a first session cookie with a value, or none at all. -/
theorem leads_or_isForeign (headers : Http.Headers) :
    (∃ value, Leads headers value) ∨ ∀ part ∈ parts headers, ∀ value, ¬ Holds part value := by
  unfold Leads
  induction parts headers with
  | nil => exact .inr fun part member => absurd member List.not_mem_nil
  | cons part rest ih =>
    by_cases holds : ∃ value, Holds part value
    · obtain ⟨value, holds⟩ := holds
      exact .inl ⟨value, [], part, rest, rfl, holds, fun other member => absurd member List.not_mem_nil⟩
    · rw [not_exists] at holds
      rcases ih with ⟨value, front, leading, back, rfl, leads, foreign⟩ | none
      · exact .inl ⟨value, part :: front, leading, back, rfl, leads,
          List.forall_mem_cons.mpr ⟨holds, foreign⟩⟩
      · exact .inr (List.forall_mem_cons.mpr ⟨holds, none⟩)

theorem find?_eq_some_iff {token : String} :
    find? headers sessionName = some token ↔ Leads headers token.toList := by
  constructor
  · intro found
    rcases leads_or_isForeign headers with ⟨value, leads⟩ | none
    · rw [find?_of_leads leads, Option.some.injEq] at found
      have same : (String.ofList value).toList = value := String.toList_ofList
      rwa [← found, same]
    · rw [find?_of_isForeign fun part member => isForeign_iff.mpr (none part member)] at found
      cases found
  · intro leads
    rw [find?_of_leads leads, String.ofList_toList]

theorem find?_eq_none_iff :
    find? headers sessionName = none ↔ ∀ part ∈ parts headers, ∀ value, ¬ Holds part value := by
  constructor
  · intro missing
    rcases leads_or_isForeign headers with ⟨value, leads⟩ | none
    · rw [find?_of_leads leads] at missing
      cases missing
    · exact none
  · intro none
    exact find?_of_isForeign fun part member => isForeign_iff.mpr (none part member)

end Cookie

/-- Whether the first authorization field can be read, and has a token behind the bearer scheme. -/
def Authorizes (headers : Http.Headers) (token : List Char) : Prop :=
  ∃ value text scheme rest, headers.first? "authorization" = some value ∧ value.text? = some text ∧
    trim text = scheme ++ ' ' :: rest ∧ ' ' ∉ scheme ∧ Text.lowerAscii scheme = "bearer".toList ∧
    trim rest = token ∧ token ≠ []

theorem bearer?_eq_some_iff {headers : Http.Headers} {token : String} :
    bearer? headers = some token ↔ Authorizes headers token.toList := by
  simp only [bearer?, Authorizes, Option.bind_eq_bind, Option.bind_eq_some_iff, Prod.exists,
    Text.splitOnce_eq_some_iff, Option.ite_none_right_eq_some, Option.some.injEq, ne_eq]
  constructor
  · rintro ⟨value, field, text, read, scheme, rest, ⟨whole, absent⟩, ⟨named, nonempty⟩, rfl⟩
    have same : (String.ofList (trim rest)).toList = trim rest := String.toList_ofList
    rw [same]
    exact ⟨value, text, scheme, rest, field, read, whole, absent, named, rfl, nonempty⟩
  · rintro ⟨value, text, scheme, rest, field, read, whole, absent, named, same, nonempty⟩
    refine ⟨value, field, text, read, scheme, rest, ⟨whole, absent⟩, ?_, ?_⟩
    · rw [same]
      exact ⟨named, nonempty⟩
    · rw [same, String.ofList_toList]

/-- A token is presented by the first session cookie with a value in a field that can be read, whatever the
authorization says; without such a cookie it is presented behind the bearer scheme, or not at all. -/
theorem presented?_eq_some_iff {headers : Http.Headers} {token : String} :
    presented? headers = some token ↔
      Cookie.Leads headers token.toList ∨
        (∀ part ∈ Cookie.parts headers, ∀ value, ¬ Cookie.Holds part value) ∧
          Authorizes headers token.toList := by
  simp only [presented?, Option.orElse_eq_orElse, Option.orElse_eq_or, Option.or_eq_some_iff,
    Cookie.find?_eq_some_iff, Cookie.find?_eq_none_iff, bearer?_eq_some_iff]

/-- Another cookie with an octet beyond ASCII hides the session cookie behind it, and the authorization is
believed. -/
theorem presented?_of_unreadable :
    ∃ cookie authorization : Http.FieldValue,
      cookie.octets = Utf8.encode "theme=".toList ++ 0xE9 :: Utf8.encode "; session_token=tok".toList ∧
      authorization.octets = Utf8.encode "Bearer stale".toList ∧
      presented? { fields := [("cookie", cookie), ("authorization", authorization)] } = some "stale" := by
  refine ⟨{ octets := Utf8.encode "theme=".toList ++ 0xE9 :: Utf8.encode "; session_token=tok".toList },
    { octets := Utf8.encode "Bearer stale".toList }, rfl, rfl, ?_⟩
  decide

end SessionServer.Credential
