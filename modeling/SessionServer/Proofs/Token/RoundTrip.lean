import SessionServer.Proofs.Json.Record
import SessionServer.Proofs.Token.Parts

/-!
A token that was issued is read back as what it was issued for, whatever characters the names hold and
up to the largest times and ids; and it is read back exactly until it expires.
-/

namespace SessionServer.Token
open Json.Record (find?)
open Text.Decimal (maxWord IsSigned)

theorem accepts_document : Header.accepts (Utf8.encode Header.document.write) = true := by
  decide +kernel

/-- The slots of the payload's fields once all claims have been read. -/
def Claims.slots (claims : Claims) : Json.Slots Entry :=
  [some (.text (String.ofList (Text.Decimal.ofInt claims.subject))), some (.text claims.email),
    some (.text claims.displayName), some (.text claims.tokenId), some (.time claims.issuedAt),
    some (.time claims.expiresAt)]

theorem textField_read (name content : String) (rest : Bytes) :
    (textField name).read (Utf8.encode (Json.Document.text content).write ++ rest) =
      .ok (.text content, rest) := by
  rw [textField, Json.Document.write]
  simp only [Json.Reader.map, Json.Record.text_written]

theorem timeField_read (name : String) {time : Nat} (fits : time ≤ maxWord)
    {rest : Bytes} (ends : Json.endsNumber rest = true) :
    (timeField name).read (Utf8.encode (Json.Document.natural time).write ++ rest) =
      .ok (.time time, rest) := by
  rw [timeField, Json.Document.write]
  simp only [Json.Reader.map, Json.Record.natural_written fits ends]

/-- The payload that is written fills each of its fields. -/
theorem payload_ofBytes {claims : Claims} (issuedFits : claims.issuedAt ≤ maxWord)
    (expiryFits : claims.expiresAt ≤ maxWord) :
    payload.ofBytes (Utf8.encode claims.document.write) = .ok claims.slots := by
  refine Json.Record.ofBytes_written ?_ rfl
  refine .known (show find? payload.fields "sub" = some (0, textField "sub") from rfl) rfl
    (fun rest _ => textField_read "sub" _ rest) ?_
  refine .known (show find? payload.fields "email" = some (1, textField "email") from rfl) rfl
    (fun rest _ => textField_read "email" _ rest) ?_
  refine .known (show find? payload.fields "name" = some (2, textField "name") from rfl) rfl
    (fun rest _ => textField_read "name" _ rest) ?_
  refine .known (show find? payload.fields "jti" = some (3, textField "jti") from rfl) rfl
    (fun rest _ => textField_read "jti" _ rest) ?_
  refine .known (show find? payload.fields "iat" = some (4, timeField "iat") from rfl) rfl
    (fun rest ends => timeField_read "iat" issuedFits ends) ?_
  refine .known (show find? payload.fields "exp" = some (5, timeField "exp") from rfl) rfl
    (fun rest ends => timeField_read "exp" expiryFits ends) ?_
  exact .done claims.slots

/-- None of the standard claims is among those that are written. -/
theorem standardClaims_ofBytes (claims : Claims) :
    standardClaims.ofBytes (Utf8.encode claims.document.write) = .ok [none, none, none] := by
  have text (content : String) (rest : Bytes) (_ : Json.endsNumber rest = true) :
      Json.skipValue (Utf8.encode (Json.Document.text content).write ++ rest) = .ok rest := by
    rw [Json.Document.write]
    exact Json.skipValue_text content rest
  have natural (value : Nat) (rest : Bytes) (ends : Json.endsNumber rest = true) :
      Json.skipValue (Utf8.encode (Json.Document.natural value).write ++ rest) = .ok rest := by
    rw [Json.Document.write]
    exact Json.skipValue_natural value ends
  refine Json.Record.ofBytes_written ?_ rfl
  refine .unknown rfl (text _) ?_
  refine .unknown rfl (text _) ?_
  refine .unknown rfl (text _) ?_
  refine .unknown rfl (text _) ?_
  refine .unknown rfl (natural _) ?_
  refine .unknown rfl (natural _) ?_
  exact .done [none, none, none]

/-- What the payload that is written for claims states. -/
def Claims.statement (claims : Claims) : Statement :=
  { subject := String.ofList (Text.Decimal.ofInt claims.subject), email := claims.email
    displayName := claims.displayName, tokenId := claims.tokenId
    issuedAt := claims.issuedAt, expiresAt := claims.expiresAt }

theorem Statement.ofBytes?_document {claims : Claims} (issuedFits : claims.issuedAt ≤ maxWord)
    (expiryFits : claims.expiresAt ≤ maxWord) :
    Statement.ofBytes? (Utf8.encode claims.document.write) = some claims.statement := by
  have allowed : standardClaimsAllow (Utf8.encode claims.document.write) = true := by
    rw [standardClaimsAllow, standardClaims_ofBytes]
  rw [Statement.ofBytes?, payload_ofBytes issuedFits expiryFits]
  simp only [Claims.slots, allowed, if_true, Claims.statement]

theorem Statement.claims?_statement {claims : Claims} (signed : IsSigned claims.subject) :
    claims.statement.claims? = some claims := by
  simp only [Statement.claims?, Claims.statement, String.toList_ofList,
    Text.Decimal.signed?_ofInt signed, Option.map_some]

/-- Claims are read back from the payload that they are written as. -/
theorem Claims.ofBytes?_document {claims : Claims} (signed : IsSigned claims.subject)
    (issuedFits : claims.issuedAt ≤ maxWord) (expiryFits : claims.expiresAt ≤ maxWord) :
    Claims.ofBytes? (Utf8.encode claims.document.write) = some claims := by
  rw [Claims.ofBytes?, Statement.ofBytes?_document issuedFits expiryFits]
  exact Statement.claims?_statement signed

/-- A signed token has the claims that it was signed for. -/
theorem verify?_sign (secret : Bytes) {claims : Claims} (signed : IsSigned claims.subject)
    (issuedFits : claims.issuedAt ≤ maxWord) (expiryFits : claims.expiresAt ≤ maxWord) :
    verify? secret (String.ofList (sign secret claims)) = some claims := by
  refine verify?_eq_some_iff.mpr ⟨Utf8.encode Header.document.write,
    Utf8.encode claims.document.write, ?_, accepts_document, ?_⟩
  · rw [String.toList_ofList, sign_eq_assemble]
  · exact Claims.ofBytes?_document signed issuedFits expiryFits

theorem Statement.expiresAt_of_claims? {statement : Statement} {claims : Claims}
    (named : statement.claims? = some claims) : claims.expiresAt = statement.expiresAt := by
  obtain ⟨id, -, rfl⟩ := Option.map_eq_some_iff.mp named
  rfl

/-- Whether a token is accepted depends on the clock through its expiry alone. -/
theorem read_of_verify? {secret : Bytes} {token : String} {claims : Claims}
    (verified : verify? secret token = some claims) (now : Nat) :
    read secret token now = if now < claims.expiresAt then .ok claims else .error .invalid := by
  obtain ⟨statement, signed, named⟩ := Option.bind_eq_some_iff.mp verified
  have expiry : claims.expiresAt = statement.expiresAt := Statement.expiresAt_of_claims? named
  simp only [read, signed, named, expiry]
  by_cases early : now < statement.expiresAt
  · rw [if_pos early, if_neg (Nat.not_le.mpr early)]
  · rw [if_neg early, if_pos (Nat.not_lt.mp early)]

/-- Issuing fails exactly if the expiry is past the largest time. Otherwise the token reads back, at
every time before its expiry, as the principal, the token id and the times it was issued for, and from
its expiry on it is refused. -/
theorem read_issue (secret : Bytes) (principal : Principal) (signed : IsSigned principal.id)
    (issuedAt duration : Nat) (tokenId : String) :
    (issue secret principal issuedAt duration tokenId = .error .lifetime ↔
      maxWord < issuedAt + duration) ∧
    (issuedAt + duration ≤ maxWord →
      ∃ issued, issue secret principal issuedAt duration tokenId = .ok issued ∧
        ∀ now,
          (now < issuedAt + duration → ∃ claims, read secret issued.token now = .ok claims ∧
            claims.principal = principal ∧ claims.tokenId = tokenId ∧
            claims.issuedAt = issuedAt ∧ claims.expiresAt = issuedAt + duration) ∧
          (issuedAt + duration ≤ now → read secret issued.token now = .error .invalid)) := by
  constructor
  · constructor
    · intro refused
      by_cases pastRange : maxWord < issuedAt + duration
      · exact pastRange
      · rw [issue, if_neg pastRange] at refused
        cases refused
    · intro pastRange
      rw [issue, if_pos pastRange]
  · intro inRange
    rw [issue, if_neg (Nat.not_lt.mpr inRange)]
    refine ⟨_, rfl, ?_⟩
    intro now
    have verified := @verify?_sign secret
      { subject := principal.id, email := principal.email, displayName := principal.displayName
        tokenId := tokenId, issuedAt := issuedAt, expiresAt := issuedAt + duration }
      signed (Nat.le_trans (Nat.le_add_right issuedAt duration) inRange) inRange
    refine ⟨?_, ?_⟩
    · intro early
      exact ⟨_, (read_of_verify? verified now).trans (if_pos early), rfl, rfl, rfl, rfl⟩
    · intro late
      exact (read_of_verify? verified now).trans (if_neg (Nat.not_lt.mpr late))

/-- A principal with the least id, whose names need every kind of escape. -/
def extreme : Principal :=
  { id := -9223372036854775808, email := "\"\\\n\x00@", displayName := "€\x7f😀" }

/-- Even the largest expiry reads back, with the least id. -/
theorem read_issue_extreme :
    IsSigned extreme.id ∧
      ∃ issued, issue [0x6B] extreme 0 maxWord "id" = .ok issued ∧
        (∃ claims, read [0x6B] issued.token (maxWord - 1) = .ok claims ∧
          claims.principal = extreme ∧ claims.expiresAt = maxWord) ∧
        read [0x6B] issued.token maxWord = .error .invalid := by
  have signed : IsSigned extreme.id := by decide
  refine ⟨signed, ?_⟩
  obtain ⟨issued, written, moments⟩ :=
    (read_issue [0x6B] extreme signed 0 maxWord "id").2 (by decide)
  obtain ⟨claims, accepted, principal, -, -, expiry⟩ := (moments (maxWord - 1)).1 (by decide)
  refine ⟨issued, written, ⟨claims, accepted, principal, ?_⟩, (moments maxWord).2 (by decide)⟩
  rw [expiry, Nat.zero_add]

end SessionServer.Token
