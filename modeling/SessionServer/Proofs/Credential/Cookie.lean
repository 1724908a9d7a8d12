import SessionServer.Proofs.Credential.Bearer
import SessionServer.Proofs.Text.Decimal
import SessionServer.Proofs.Text.Split

/-!
A session cookie that a client sends back, among cookies of any other name, presents the token that it
was set for.
-/

namespace SessionServer.Credential
open Text (IsVisible)

namespace Cookie

/-- The parts of a request's cookie fields, in the order they were sent. -/
def parts (headers : Http.Headers) : List (List Char) :=
  (headers.all "cookie").flatMap fun value =>
    match value.text? with
    | some text => Text.splitAll ';' text
    | none => []

theorem allPairs_eq_filterMap (headers : Http.Headers) :
    allPairs headers = (parts headers).filterMap pair? := by
  rw [allPairs, parts, List.filterMap_flatMap]
  congr 1
  funext value
  cases value.text? with
  | none => rfl
  | some text => rfl

/-- Whether a part of a cookie field is something else than a session cookie with a value. -/
def IsForeign (part : List Char) : Prop :=
  ∀ pair, pair? part = some pair → pair.1 = sessionName.toList → pair.2 = []

instance (part : List Char) : Decidable (IsForeign part) :=
  inferInstanceAs (Decidable (∀ pair ∈ pair? part, pair.1 = sessionName.toList → pair.2 = []))

/-- Whether a request sends back a cookie as it was set, with no other session cookie in front of it. -/
def SendsBack (headers : Http.Headers) (setCookie : String) : Prop :=
  ∃ front part back, parts headers = front ++ part :: back ∧
    Text.trim part = setCookie.toList.takeWhile (· ≠ ';') ∧ ∀ other ∈ front, IsForeign other

variable {headers : Http.Headers} {token : String} {lifetime : Nat} {secure : Bool}

/-- The session cookie, character by character. -/
theorem session_eq (token : String) (lifetime : Nat) (secure : Bool) :
    session token lifetime secure =
      "session_token=" ++ token ++ "; HttpOnly; SameSite=Strict; Path=/; Max-Age=" ++
        toString lifetime ++ (if secure then "; Secure" else "") := by
  rw [session, Text.Decimal.ofList_ofNat]
  rfl

/-- The cookie that takes the session cookie away has no value, and ends at once. -/
theorem clearing_eq (secure : Bool) :
    clearing secure =
      "session_token=; HttpOnly; SameSite=Strict; Path=/; Max-Age=0" ++
        (if secure then "; Secure" else "") := by
  cases secure with
  | false => decide
  | true => decide

/-- Parts that are no session cookies are passed over. -/
theorem findSome?_of_isForeign {front : List (List Char)} (foreign : ∀ part ∈ front, IsForeign part) :
    ((front.filterMap pair?).findSome? fun pair =>
      if pair.1 = sessionName.toList ∧ pair.2 ≠ [] then some (String.ofList pair.2) else none) =
        none := by
  rw [List.findSome?_eq_none_iff]
  intro pair member
  obtain ⟨part, inFront, cut⟩ := List.mem_filterMap.mp member
  exact if_neg fun ⟨named, valued⟩ => valued (foreign part inFront pair cut named)

theorem semicolon_not_mem_pair (single : ';' ∉ token.toList) :
    ';' ∉ sessionName.toList ++ '=' :: token.toList := by
  have named : ';' ∉ sessionName.toList := by decide
  simp [named, single]

/-- The pair of a session cookie is all of it in front of its attributes. -/
theorem takeWhile_session (single : ';' ∉ token.toList) :
    (session token lifetime secure).toList.takeWhile (· ≠ ';') =
      sessionName.toList ++ '=' :: token.toList := by
  obtain ⟨rest, whole⟩ : ∃ rest, (session token lifetime secure).toList =
      (sessionName.toList ++ '=' :: token.toList) ++ ';' :: rest := by
    refine ⟨" HttpOnly; SameSite=Strict; Path=/; Max-Age=".toList ++ Text.Decimal.ofNat lifetime ++
      (if secure then "; Secure" else "").toList, ?_⟩
    have eq : "=".toList = ['='] := rfl
    have semicolon : attributes.toList =
        ';' :: " HttpOnly; SameSite=Strict; Path=/; Max-Age=".toList := by decide
    simp only [session, String.toList_append, String.toList_ofList, eq, semicolon, List.append_assoc,
      List.cons_append, List.nil_append]
  have passed : ∀ c ∈ sessionName.toList ++ '=' :: token.toList, decide (c ≠ ';') = true := by
    intro c member
    refine decide_eq_true ?_
    rintro rfl
    exact semicolon_not_mem_pair single member
  rw [whole, List.takeWhile_append_of_pos passed]
  simp

/-- The token of a session cookie is found again in a request that sends the cookie back. -/
theorem find?_of_sendsBack (trimmed : Text.IsTrimmed token.toList) (single : ';' ∉ token.toList)
    (nonempty : token.toList ≠ []) (sends : SendsBack headers (session token lifetime secure)) :
    find? headers sessionName = some token := by
  obtain ⟨front, part, back, sent, same, foreign⟩ := sends
  rw [takeWhile_session single] at same
  have named : Text.trim sessionName.toList = sessionName.toList := by decide
  have cut : pair? part = some (sessionName.toList, token.toList) := by
    have absent : '=' ∉ sessionName.toList := by decide
    rw [pair?, same, Text.splitOnce_append _ absent]
    show some (Text.trim sessionName.toList, Text.trim token.toList) = _
    rw [named, trimmed.trim_eq]
  rw [find?, allPairs_eq_filterMap, sent, List.filterMap_append, List.findSome?_append,
    findSome?_of_isForeign foreign, Option.none_or, List.filterMap_cons_some cut, List.findSome?_cons,
    if_pos ⟨rfl, nonempty⟩, String.ofList_toList]

/-- The cookie of every visible token can be sent back. -/
theorem exists_sendsBack (visible : ∀ c ∈ token.toList, IsVisible c) (single : ';' ∉ token.toList)
    (lifetime : Nat) (secure : Bool) :
    ∃ headers, SendsBack headers (session token lifetime secure) := by
  have line : ∀ c ∈ sessionName.toList ++ '=' :: token.toList, IsVisible c := by
    have named : sessionName.toList.all (fun c => decide (IsVisible c)) = true := by decide
    intro c member
    rcases List.mem_append.mp member with inName | rest
    · exact of_decide_eq_true (List.all_eq_true.mp named c inName)
    · rcases List.mem_cons.mp rest with rfl | inToken
      · decide
      · exact visible c inToken
  obtain ⟨value, -, read⟩ := Http.FieldValue.text?_of_isReadable fun c member =>
    Http.isReadable_of_isVisible (line c member)
  refine ⟨{ fields := [("cookie", value)] }, [], sessionName.toList ++ '=' :: token.toList, [], ?_, ?_,
    fun _ none => absurd none List.not_mem_nil⟩
  · have field : Http.Headers.all { fields := [("cookie", value)] } "cookie" = [value] := rfl
    rw [parts, field, List.flatMap_singleton, read]
    exact Text.splitAll_of_not_mem (semicolon_not_mem_pair single)
  · rw [Text.trim_of_isVisible line, takeWhile_session single]

theorem find?_of_isForeign (foreign : ∀ part ∈ parts headers, IsForeign part) :
    find? headers sessionName = none := by
  rw [find?, allPairs_eq_filterMap, findSome?_of_isForeign foreign]

end Cookie

/-- Whether a token behind the bearer scheme is the only credential of a request. -/
def Bears (headers : Http.Headers) (token : String) : Prop :=
  (∀ part ∈ Cookie.parts headers, Cookie.IsForeign part) ∧
    ∃ value, headers.first? "authorization" = some value ∧
      value.text? = some ("Bearer".toList ++ ' ' :: token.toList)

/-- Any readable token can be the only credential of a request. -/
theorem exists_bears {token : String} (readable : ∀ c ∈ token.toList, Http.IsReadable c) :
    ∃ headers, bearerFields? token.toList = some headers ∧ Bears headers token := by
  obtain ⟨value, sent, read⟩ := exists_bearerValue readable
  refine ⟨{ fields := [("authorization", value)] }, ?_, ?_, value, rfl, read⟩
  · rw [bearerFields?, sent]
    rfl
  · exact fun part none => absurd none List.not_mem_nil

/-- The only credential of a request is presented. -/
theorem presented?_of_bears {headers : Http.Headers} {token : String}
    (trimmed : Text.IsTrimmed token.toList) (nonempty : token.toList ≠ []) (bears : Bears headers token) :
    presented? headers = some token := by
  obtain ⟨foreign, value, field, read⟩ := bears
  rw [presented?, Cookie.find?_of_isForeign foreign, bearer?_of_isTrimmed field read trimmed nonempty,
    String.ofList_toList]
  rfl

/-- A token is presented by a request that sends back its cookie, and by one that bears it. -/
theorem presented?_of_sent {headers : Http.Headers} {token : String} {lifetime : Nat} {secure : Bool}
    (visible : ∀ c ∈ token.toList, IsVisible c) (single : ';' ∉ token.toList)
    (nonempty : token.toList ≠ [])
    (sent : Cookie.SendsBack headers (Cookie.session token lifetime secure) ∨ Bears headers token) :
    presented? headers = some token := by
  have trimmed := Text.isTrimmed_of_isVisible visible
  rcases sent with sends | bears
  · rw [presented?, Cookie.find?_of_sendsBack trimmed single nonempty sends]
    rfl
  · exact presented?_of_bears trimmed nonempty bears

end SessionServer.Credential
