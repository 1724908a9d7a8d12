import SessionServer.Proofs.Credential.Presented
import SessionServer.Proofs.Token.Issue

/-!
A token reads back the same however it is presented. Whatever a request presents can be presented behind the
bearer scheme; and the pair of a session cookie is found among all other cookies, wherever they stand, in as
many fields as there may be, and whatever the authorization says.
-/

namespace SessionServer.Credential
open Http (IsReadable)
open Text (IsTrimmed)

namespace Cookie

/-- The pair of a cookie that was set: what stands in front of its attributes. -/
def pairOf (setCookie : String) : List Char := setCookie.toList.takeWhile (· ≠ ';')

/-- Whether a text can be the value of a session cookie: it is printable, and neither blanks nor semicolons
get in the way. -/
structure IsValue (value : List Char) : Prop where
  nonempty : value ≠ []
  printable : ∀ c ∈ value, 0x20 ≤ c.toNat ∧ c.toNat < 0x7F
  single : ';' ∉ value
  trimmed : IsTrimmed value

/-- Whether a text can stand between the semicolons of a cookie field. -/
structure IsPiece (piece : List Char) : Prop where
  single : ';' ∉ piece
  readable : ∀ c ∈ piece, IsReadable c

instance (piece : List Char) : Decidable (IsPiece piece) :=
  decidable_of_iff (';' ∉ piece ∧ (piece.all fun c => decide (IsReadable c)) = true) <| by
    simp only [List.all_eq_true, decide_eq_true_eq]
    exact ⟨fun ⟨single, readable⟩ => ⟨single, readable⟩, fun whole => ⟨whole.single, whole.readable⟩⟩

/-- Whether the cookie fields of a request are these, in order: each is its pieces with semicolons between
them. -/
def Sends (headers : Http.Headers) (fields : List (List (List Char))) : Prop :=
  (headers.all "cookie").map Http.FieldValue.text? =
    fields.map fun pieces => some (List.intercalate [';'] pieces)

/-- Where a pair stands among the cookies of a request: the fields in front of its own, the pieces in front of
it, the padding at either side, and what follows. -/
structure Arrangement where
  before : List (List (List Char)) := []
  front : List (List Char) := []
  left : List Char := []
  right : List Char := []
  back : List (List Char) := []
  after : List (List (List Char)) := []

namespace Arrangement

def fields (around : Arrangement) (pair : List Char) : List (List (List Char)) :=
  around.before ++ (around.front ++ (around.left ++ pair ++ around.right) :: around.back) :: around.after

/-- Whether the pair is padded with spaces and tabs alone, and no session cookie with a value stands in front
of it. -/
structure IsAdmissible (around : Arrangement) : Prop where
  fields : ∀ pieces ∈ around.before ++ around.after, pieces ≠ [] ∧ ∀ piece ∈ pieces, IsPiece piece
  pieces : ∀ piece ∈ around.front ++ around.back, IsPiece piece
  padding : ∀ c ∈ around.left ++ around.right, c = ' ' ∨ c = '\t'
  foreign : ∀ piece ∈ around.before.flatten ++ around.front, ∀ value, ¬ Holds piece value

end Arrangement

variable {headers : Http.Headers} {fields : List (List (List Char))} {token : String}

theorem isReadable_of_mem_parts {part : List Char} (member : part ∈ parts headers) :
    ∀ c ∈ part, IsReadable c := by
  intro c inPart
  obtain ⟨value, -, inField⟩ := List.mem_flatMap.mp member
  split at inField
  next text read => exact Http.isReadable_of_text? read c (Text.mem_of_mem_splitAll inField inPart)
  next => cases inField

/-- What a session cookie holds can be presented again. -/
theorem Holds.isReadable {part value : List Char} (holds : Holds part value)
    (member : part ∈ parts headers) : ∀ c ∈ value, IsReadable c := by
  obtain ⟨name, rest, whole, -, -, rfl, -⟩ := holds
  intro c inValue
  apply isReadable_of_mem_parts member
  apply Text.mem_of_mem_trim
  rw [whole]
  exact List.mem_append_right name (List.mem_cons_of_mem _ (Text.mem_of_mem_trim inValue))

/-- The parts of a field, if it can be read. -/
def partsOf : Option (List Char) → List (List Char)
  | some text => Text.splitAll ';' text
  | none => []

theorem parts_eq_flatMap (headers : Http.Headers) :
    parts headers = ((headers.all "cookie").map Http.FieldValue.text?).flatMap partsOf := by
  rw [parts, List.flatMap_map]
  rfl

/-- The pieces that were put together to fields are the parts of the request. -/
theorem parts_of_sends (sends : Sends headers fields)
    (cuts : ∀ pieces ∈ fields, pieces ≠ [] ∧ ∀ piece ∈ pieces, IsPiece piece) :
    parts headers = fields.flatten := by
  have apart (pieces : List (List Char)) (member : pieces ∈ fields) :
      partsOf (some (List.intercalate [';'] pieces)) = pieces := by
    obtain ⟨nonempty, each⟩ := cuts pieces member
    exact Text.splitAll_eq_iff.mpr ⟨nonempty, fun piece inField => (each piece inField).single, rfl⟩
  calc parts headers
    _ = ((headers.all "cookie").map Http.FieldValue.text?).flatMap partsOf := parts_eq_flatMap headers
    _ = fields.flatMap fun pieces => partsOf (some (List.intercalate [';'] pieces)) := by
      rw [sends, List.flatMap_map]
    _ = (fields.map fun pieces => partsOf (some (List.intercalate [';'] pieces))).flatten :=
      List.flatMap_def
    _ = fields.flatten := by rw [List.map_congr_left apart, List.map_id']

theorem isReadable_of_mem_intercalate {pieces : List (List Char)}
    (each : ∀ piece ∈ pieces, IsPiece piece) :
    ∀ c ∈ List.intercalate [';'] pieces, IsReadable c := by
  intro c member
  by_cases separator : c = ';'
  · rw [separator]
    exact .inr (by decide)
  · by_cases inPiece : ∃ piece ∈ pieces, c ∈ piece
    · obtain ⟨piece, among, inPiece⟩ := inPiece
      exact (each piece among).readable c inPiece
    · apply absurd member
      apply Text.not_mem_intercalate separator
      intro piece among inThis
      exact inPiece ⟨piece, among, inThis⟩

theorem all_map_self (name : String) (values : List Http.FieldValue) :
    Http.Headers.all { fields := values.map ((name, ·)) } name = values := by
  induction values with
  | nil => rfl
  | cons value rest ih =>
    rw [List.map_cons, Http.Headers.all, List.filterMap_cons, if_pos rfl, ← Http.Headers.all, ih]

theorem all_map_of_ne {name other : String} (different : other ≠ name) (values : List Http.FieldValue) :
    Http.Headers.all { fields := values.map ((other, ·)) } name = [] := by
  induction values with
  | nil => rfl
  | cons value rest ih =>
    rw [List.map_cons, Http.Headers.all, List.filterMap_cons, if_neg different, ← Http.Headers.all, ih]

/-- The fields of a request that has cookies and authorizations alone. -/
theorem all_of_fields (cookies authorizations : List Http.FieldValue) :
    let headers : Http.Headers :=
      { fields := cookies.map (("cookie", ·)) ++ authorizations.map (("authorization", ·)) }
    headers.all "cookie" = cookies ∧ headers.all "authorization" = authorizations := by
  have parts (name : String) : Http.Headers.all
      { fields := cookies.map (("cookie", ·)) ++ authorizations.map (("authorization", ·)) } name =
        Http.Headers.all { fields := cookies.map (("cookie", ·)) } name ++
          Http.Headers.all { fields := authorizations.map (("authorization", ·)) } name :=
    List.filterMap_append
  constructor
  · rw [parts, all_map_self, all_map_of_ne (by decide), List.append_nil]
  · rw [parts, all_map_self, all_map_of_ne (by decide), List.nil_append]

/-- All fields whose pieces can be read can be sent, beside any authorization. -/
theorem exists_sends (cuts : ∀ pieces ∈ fields, pieces ≠ [] ∧ ∀ piece ∈ pieces, IsPiece piece)
    (authorizations : List Http.FieldValue) :
    ∃ headers, Sends headers fields ∧ headers.all "authorization" = authorizations := by
  obtain ⟨values, read⟩ : ∃ values : List Http.FieldValue, values.map Http.FieldValue.text? =
      fields.map fun pieces => some (List.intercalate [';'] pieces) := by
    induction fields with
    | nil => exact ⟨[], rfl⟩
    | cons pieces rest ih =>
      obtain ⟨⟨-, each⟩, later⟩ := List.forall_mem_cons.mp cuts
      obtain ⟨values, others⟩ := ih later
      obtain ⟨value, -, read⟩ :=
        Http.FieldValue.text?_of_isReadable (isReadable_of_mem_intercalate each)
      exact ⟨value :: values, by rw [List.map_cons, List.map_cons, others, read]⟩
  obtain ⟨cookies, others⟩ := all_of_fields values authorizations
  refine ⟨_, ?_, others⟩
  rw [Sends, cookies, read]

theorem isBlank_of_padding {left right : List Char}
    (padding : ∀ c ∈ left ++ right, c = ' ' ∨ c = '\t') :
    (∀ c ∈ left, Text.isBlank c = true) ∧ ∀ c ∈ right, Text.isBlank c = true := by
  have blank (c : Char) (member : c ∈ left ++ right) : Text.isBlank c = true := by
    rcases padding c member with rfl | rfl
    · decide
    · decide
  exact ⟨fun c inLeft => blank c (List.mem_append_left right inLeft),
    fun c inRight => blank c (List.mem_append_right left inRight)⟩

/-- A pair that is a piece is one with padding around it, too. -/
theorem IsPiece.padded {left pair right : List Char} (piece : IsPiece pair)
    (padding : ∀ c ∈ left ++ right, c = ' ' ∨ c = '\t') : IsPiece (left ++ pair ++ right) := by
  have plain (c : Char) (member : c ∈ left ++ right) : c ≠ ';' ∧ IsReadable c := by
    rcases padding c member with rfl | rfl
    · exact ⟨by decide, .inr (by decide)⟩
    · exact ⟨by decide, .inl rfl⟩
  have each (c : Char) (member : c ∈ left ++ pair ++ right) : c ≠ ';' ∧ IsReadable c := by
    rcases List.mem_append.mp member with inFront | inRight
    · rcases List.mem_append.mp inFront with inLeft | inPair
      · exact plain c (List.mem_append_left right inLeft)
      · exact ⟨fun same => piece.single (same ▸ inPair), piece.readable c inPair⟩
    · exact plain c (List.mem_append_right left inRight)
  exact ⟨fun member => (each ';' member).1 rfl, fun c member => (each c member).2⟩

/-- The pair of a session cookie is its name and its value. -/
theorem pairOf_session (single : ';' ∉ token.toList) (lifetime : Nat) (secure : Bool) :
    pairOf (session token lifetime secure) = sessionName.toList ++ '=' :: token.toList :=
  takeWhile_session single

theorem isPiece_pairOf_session (single : ';' ∉ token.toList)
    (readable : ∀ c ∈ token.toList, IsReadable c) (lifetime : Nat) (secure : Bool) :
    IsPiece (pairOf (session token lifetime secure)) := by
  rw [pairOf_session single]
  refine ⟨semicolon_not_mem_pair single, ?_⟩
  have named : ∀ c ∈ sessionName.toList ++ ['='], IsReadable c := by
    intro c member
    have visible : (sessionName.toList ++ ['=']).all (fun c => decide (Text.IsVisible c)) = true := by
      decide
    exact Http.isReadable_of_isVisible (of_decide_eq_true (List.all_eq_true.mp visible c member))
  intro c member
  rw [List.append_cons] at member
  rcases List.mem_append.mp member with inName | inToken
  · exact named c inName
  · exact readable c inToken

/-- An arrangement of readable pieces around a readable pair can be sent. -/
theorem Arrangement.IsAdmissible.cuts {around : Arrangement} (admissible : around.IsAdmissible)
    {pair : List Char} (piece : IsPiece pair) :
    ∀ pieces ∈ around.fields pair, pieces ≠ [] ∧ ∀ piece ∈ pieces, IsPiece piece := by
  intro pieces member
  rcases List.mem_append.mp member with before | rest
  · exact admissible.fields pieces (List.mem_append_left _ before)
  · rcases List.mem_cons.mp rest with rfl | after
    · refine ⟨List.append_ne_nil_of_right_ne_nil _ (List.cons_ne_nil _ _), ?_⟩
      intro other among
      rcases List.mem_append.mp among with front | own
      · exact admissible.pieces other (List.mem_append_left _ front)
      · rcases List.mem_cons.mp own with rfl | back
        · exact piece.padded admissible.padding
        · exact admissible.pieces other (List.mem_append_right _ back)
    · exact admissible.fields pieces (List.mem_append_right _ after)

theorem Arrangement.flatten_fields (around : Arrangement) (pair : List Char) :
    (around.fields pair).flatten = (around.before.flatten ++ around.front) ++
      (around.left ++ pair ++ around.right) :: (around.back ++ around.after.flatten) := by
  simp only [fields, List.flatten_append, List.flatten_cons, List.append_assoc, List.cons_append]

theorem IsValue.isReadable (value : IsValue token.toList) : ∀ c ∈ token.toList, IsReadable c :=
  fun c member => .inr (value.printable c member)

/-- A request with the pair of a session cookie, in front of which no other one with a value stands, sends the
cookie back. -/
theorem sendsBack_of_sends {around : Arrangement} {lifetime : Nat} {secure : Bool}
    (value : IsValue token.toList) (admissible : around.IsAdmissible)
    (sends : Sends headers (around.fields (pairOf (session token lifetime secure)))) :
    SendsBack headers (session token lifetime secure) := by
  have piece := isPiece_pairOf_session value.single value.isReadable lifetime secure
  have sent := (parts_of_sends sends (admissible.cuts piece)).trans (around.flatten_fields _)
  refine ⟨_, _, _, sent, ?_, ?_⟩
  · obtain ⟨before, after⟩ := isBlank_of_padding admissible.padding
    show Text.trim _ = pairOf _
    apply Text.trim_padded _ _ before after
    · rw [pairOf_session value.single, List.append_cons]
      apply Text.isTrimmed_append _ value.trimmed value.nonempty
      · exact List.append_ne_nil_of_right_ne_nil _ (List.cons_ne_nil _ _)
      · rintro c ⟨⟩
        decide
    · rw [pairOf_session value.single]
      exact List.append_ne_nil_of_right_ne_nil _ (List.cons_ne_nil _ _)
  · intro other inFront
    exact isForeign_iff.mpr (admissible.foreign other inFront)

/-- The pair that a client sends back when its cookie was cleared has no value. -/
theorem isForeign_of_clearing {left right : List Char} (secure : Bool)
    (padding : ∀ c ∈ left ++ right, c = ' ' ∨ c = '\t') :
    IsForeign (left ++ pairOf (clearing secure) ++ right) := by
  obtain ⟨before, after⟩ := isBlank_of_padding padding
  have whole : pairOf (clearing secure) = "session_token=".toList :=
    pairOf_session List.not_mem_nil 0 secure
  have trimmed : Text.trim (left ++ pairOf (clearing secure) ++ right) = "session_token=".toList := by
    rw [whole]
    exact Text.trim_padded (by decide) (by decide) before after
  have cut : Text.splitOnce '=' "session_token=".toList = some (sessionName.toList, []) := by decide
  intro pair same named
  rw [pair?, trimmed, cut, Option.map_some, Option.some.injEq] at same
  rw [← same]
  rfl

theorem cuts_of_clearing {left right : List Char} (secure : Bool)
    (padding : ∀ c ∈ left ++ right, c = ' ' ∨ c = '\t') :
    ∀ pieces ∈ [[left ++ pairOf (clearing secure) ++ right]],
      pieces ≠ [] ∧ ∀ piece ∈ pieces, IsPiece piece := by
  have bare : IsPiece (pairOf (clearing secure)) :=
    @isPiece_pairOf_session "" List.not_mem_nil (fun c none => absurd none List.not_mem_nil) 0 secure
  have piece := bare.padded padding
  intro pieces member
  cases List.mem_singleton.mp member
  exact ⟨List.cons_ne_nil _ _, fun other among => List.mem_singleton.mp among ▸ piece⟩

/-- Where the pair of a cleared cookie is sent back alone, nothing is presented. -/
theorem presented?_of_clearing {left right : List Char} (secure : Bool)
    (padding : ∀ c ∈ left ++ right, c = ' ' ∨ c = '\t')
    (sends : Sends headers [[left ++ pairOf (clearing secure) ++ right]])
    (silent : headers.all "authorization" = []) : presented? headers = none := by
  have sole : parts headers = [left ++ pairOf (clearing secure) ++ right] :=
    parts_of_sends sends (cuts_of_clearing secure padding)
  have missing : find? headers sessionName = none := by
    apply find?_of_isForeign
    rw [sole]
    intro part member
    exact List.mem_singleton.mp member ▸ isForeign_of_clearing secure padding
  rw [presented?, missing, bearer?, Http.Headers.first?, silent]
  rfl

end Cookie

/-- What a request presents is a trimmed text of readable characters. -/
theorem of_presented {headers : Http.Headers} {token : String}
    (presents : presented? headers = some token) :
    IsTrimmed token.toList ∧ token.toList ≠ [] ∧ ∀ c ∈ token.toList, IsReadable c := by
  rw [presented?, Option.orElse_eq_orElse, Option.orElse_eq_or, Option.or_eq_some_iff] at presents
  rcases presents with cookie | ⟨-, bearer⟩
  · obtain ⟨front, part, back, sent, holds, -⟩ := Cookie.find?_eq_some_iff.mp cookie
    have member : part ∈ Cookie.parts headers := by
      rw [sent]
      exact List.mem_append_right front List.mem_cons_self
    obtain ⟨name, rest, -, -, -, value, nonempty⟩ := id holds
    exact ⟨value ▸ Text.isTrimmed_trim rest, nonempty, holds.isReadable member⟩
  · obtain ⟨value, text, scheme, rest, -, read, whole, -, -, same, nonempty⟩ :=
      bearer?_eq_some_iff.mp bearer
    refine ⟨same ▸ Text.isTrimmed_trim rest, nonempty, ?_⟩
    intro c member
    have inRest : c ∈ rest := Text.mem_of_mem_trim (same ▸ member)
    have inWhole : c ∈ Text.trim text := by
      rw [whole]
      exact List.mem_append_right scheme (List.mem_cons_of_mem _ inRest)
    exact Http.isReadable_of_text? read c (Text.mem_of_mem_trim inWhole)

/-- A token that a session was issued can be the value of a cookie. -/
theorem isValue_of_issue {secret : Bytes} {principal : Principal} {issuedAt duration : Nat}
    {tokenId : String} {issued : Token.Issued}
    (issues : Token.issue secret principal issuedAt duration tokenId = .ok issued) :
    Cookie.IsValue issued.token.toList := by
  obtain ⟨visible, single, nonempty⟩ := Token.isVisible_of_issue issues
  refine ⟨nonempty, ?_, single, Text.isTrimmed_of_isVisible visible⟩
  intro c member
  obtain ⟨least, most⟩ := visible c member
  exact ⟨Nat.le_of_succ_le least, most⟩

/-- A token reads back the same however it is presented. What was read off any request can be sent behind the
bearer scheme, and is read again where it is the only credential. The pair of a session cookie, wherever it
stands among cookies of which none in front of it is a session cookie with a value, and whatever the
authorization says, is read as the value that the cookie was set for; the pair of a cleared cookie, alone, as
nothing. Issued tokens can be such values. -/
theorem reads_back :
    (∀ headers token, presented? headers = some token →
      (∃ request, bearerFields? token.toList = some request ∧ Bears request token) ∧
        ∀ request, Bears request token → presented? request = some token) ∧
    (∀ token : String, Cookie.IsValue token.toList →
      ∀ (lifetime : Nat) (secure : Bool) (around : Cookie.Arrangement), around.IsAdmissible →
        let fields := around.fields (Cookie.pairOf (Cookie.session token lifetime secure))
        (∀ authorizations, ∃ headers,
          Cookie.Sends headers fields ∧ headers.all "authorization" = authorizations) ∧
        ∀ headers, Cookie.Sends headers fields → presented? headers = some token) ∧
    (∀ (secure : Bool) (left right : List Char), (∀ c ∈ left ++ right, c = ' ' ∨ c = '\t') →
      let fields := [[left ++ Cookie.pairOf (Cookie.clearing secure) ++ right]]
      (∃ headers, Cookie.Sends headers fields ∧ headers.all "authorization" = []) ∧
        ∀ headers, Cookie.Sends headers fields → headers.all "authorization" = [] →
          presented? headers = none) ∧
    ∀ secret principal issuedAt duration tokenId issued,
      Token.issue secret principal issuedAt duration tokenId = .ok issued →
        Cookie.IsValue issued.token.toList := by
  refine ⟨?bearer, ?cookie, ?cleared, fun _ _ _ _ _ _ issues => isValue_of_issue issues⟩
  case bearer =>
    intro headers token presents
    obtain ⟨trimmed, nonempty, readable⟩ := of_presented presents
    exact ⟨exists_bears readable, fun request bears => presented?_of_bears trimmed nonempty bears⟩
  case cookie =>
    intro token value lifetime secure around admissible
    have piece := Cookie.isPiece_pairOf_session value.single value.isReadable lifetime secure
    refine ⟨Cookie.exists_sends (admissible.cuts piece), ?_⟩
    intro headers sends
    have back := Cookie.sendsBack_of_sends value admissible sends
    rw [presented?, Cookie.find?_of_sendsBack value.trimmed value.single value.nonempty back]
    rfl
  case cleared =>
    intro secure left right padding
    exact ⟨Cookie.exists_sends (Cookie.cuts_of_clearing secure padding) [],
      fun headers sends silent => Cookie.presented?_of_clearing secure padding sends silent⟩

/-- A token with blanks and an equals sign inside, in the second of two cookie fields and behind an emptied
session cookie, is read back although the authorization has another one. -/
theorem reads_back_second_field :
    ∃ first second authorization : Http.FieldValue,
      first.octets = Utf8.encode "theme=dark; session_token=".toList ∧
      second.octets = Utf8.encode "lang=de;\tsession_token=a=b c ;session_token=old".toList ∧
      authorization.octets = Utf8.encode "Bearer stale".toList ∧
      presented? { fields := [("cookie", first), ("authorization", authorization), ("cookie", second)] } =
        some "a=b c" := by
  refine ⟨{ octets := Utf8.encode "theme=dark; session_token=".toList },
    { octets := Utf8.encode "lang=de;\tsession_token=a=b c ;session_token=old".toList },
    { octets := Utf8.encode "Bearer stale".toList }, rfl, rfl, rfl, ?_⟩
  let around : Cookie.Arrangement :=
    { before := [["theme=dark".toList, " session_token=".toList]], front := ["lang=de".toList]
      left := ['\t'], right := [' '], back := ["session_token=old".toList] }
  have value : Cookie.IsValue "a=b c".toList := by
    have printable : ("a=b c".toList.all fun c => 0x20 ≤ c.toNat ∧ c.toNat < 0x7F) = true := by decide
    exact ⟨by decide, fun c member => of_decide_eq_true (List.all_eq_true.mp printable c member),
      by decide, by decide⟩
  have foreign : ∀ piece ∈ around.before.flatten ++ around.front, Cookie.IsForeign piece := by
    decide +kernel
  have admissible : around.IsAdmissible := by
    refine ⟨by decide +kernel, by decide +kernel, ?_, ?_⟩
    · intro c member
      rcases List.mem_cons.mp member with rfl | last
      · exact .inr rfl
      · exact .inl (List.mem_singleton.mp last)
    · intro piece member
      exact Cookie.isForeign_iff.mp (foreign piece member)
  refine (reads_back.2.1 "a=b c" value 60 true around admissible).2 _ ?_
  unfold Cookie.Sends
  decide +kernel

end SessionServer.Credential
