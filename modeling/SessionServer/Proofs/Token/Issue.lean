import SessionServer.Proofs.Token.RoundTrip

/-!
What an issued token can be read as: as nothing but what it was issued for.
-/

namespace SessionServer.Token
open Text.Decimal (maxWord IsSigned)

/-- The claims that are signed when a token is issued. -/
def Claims.ofSession (principal : Principal) (tokenId : String) (issuedAt duration : Nat) : Claims :=
  { subject := principal.id, email := principal.email, displayName := principal.displayName
    tokenId := tokenId, issuedAt := issuedAt, expiresAt := issuedAt + duration }

variable {secret : Bytes} {principal : Principal} {issuedAt duration : Nat} {tokenId : String}
  {issued : Issued} {claims others : Claims}

theorem issue_eq_ok_iff :
    issue secret principal issuedAt duration tokenId = .ok issued ↔
      issuedAt + duration ≤ maxWord ∧
        issued =
          { token := String.ofList (sign secret (.ofSession principal tokenId issuedAt duration))
            issuedAt := issuedAt, expiresAt := issuedAt + duration, duration := duration } := by
  unfold issue
  by_cases late : maxWord < issuedAt + duration
  · simp only [late, if_true, reduceCtorEq, Nat.not_le.mpr late, false_and]
  · simp only [late, if_false, Except.ok.injEq, Nat.not_lt.mp late, true_and]
    exact eq_comm

/-- Issuing fails only where the expiry would be past the largest time. -/
theorem issue_eq_error_iff :
    issue secret principal issuedAt duration tokenId = .error .lifetime ↔ maxWord < issuedAt + duration := by
  unfold issue
  by_cases late : maxWord < issuedAt + duration
  · simp only [late, if_true]
  · simp only [late, if_false, reduceCtorEq]

/-- What is read off a payload that was written for claims, if anything, is these claims. -/
theorem Claims.eq_of_ofBytes?_document (issuedFits : claims.issuedAt ≤ maxWord)
    (expiryFits : claims.expiresAt ≤ maxWord)
    (read : Claims.ofBytes? (Utf8.encode claims.document.write) = some others) : others = claims := by
  rw [Claims.ofBytes?, Statement.ofBytes?_document issuedFits expiryFits, Option.bind_some] at read
  obtain ⟨id, found, rfl⟩ := Option.map_eq_some_iff.mp read
  simp only [Claims.statement, String.toList_ofList, Text.Decimal.signed?_ofInt_eq] at found
  split at found
  next =>
    cases found
    rfl
  next => cases found

/-- The claims of an issued token, if it has a good signature, are those that it was issued for. -/
theorem eq_of_verify?_issue (issues : issue secret principal issuedAt duration tokenId = .ok issued)
    (verified : verify? secret issued.token = some claims) :
    claims = .ofSession principal tokenId issuedAt duration := by
  obtain ⟨fits, rfl⟩ := issue_eq_ok_iff.mp issues
  obtain ⟨header, payload, assembled, -, read⟩ := verify?_eq_some_iff.mp verified
  rw [String.toList_ofList, sign_eq_assemble] at assembled
  obtain ⟨-, rfl⟩ := assemble_inj assembled
  exact Claims.eq_of_ofBytes?_document (Nat.le_trans (Nat.le_add_right issuedAt duration) fits) fits
    read

/-- An issued token is read back as what it was issued for, if the id fits a signed 64-bit word. -/
theorem verify?_issue (issues : issue secret principal issuedAt duration tokenId = .ok issued)
    (signed : IsSigned principal.id) :
    verify? secret issued.token = some (.ofSession principal tokenId issuedAt duration) := by
  obtain ⟨fits, rfl⟩ := issue_eq_ok_iff.mp issues
  exact verify?_sign secret signed (Nat.le_trans (Nat.le_add_right issuedAt duration) fits) fits

theorem read_of_issue (issues : issue secret principal issuedAt duration tokenId = .ok issued)
    (signed : IsSigned principal.id) {now : Nat} (unexpired : now < issued.expiresAt) :
    read secret issued.token now = .ok (.ofSession principal tokenId issuedAt duration) := by
  have ends : issued.expiresAt = issuedAt + duration := by rw [(issue_eq_ok_iff.mp issues).2]
  rw [ends] at unexpired
  exact (read_of_verify? (verify?_issue issues signed) now).trans (if_pos unexpired)

theorem Claims.slots_injective (same : claims.slots = others.slots) : claims = others := by
  rcases claims with ⟨subject, email, displayName, tokenId, issuedAt, expiresAt⟩
  rcases others with ⟨otherSubject, otherEmail, otherName, otherId, otherIssue, otherExpiry⟩
  simp only [Claims.slots, List.cons.injEq, Option.some.injEq, Entry.text.injEq, Entry.time.injEq,
    and_true] at same
  obtain ⟨subjects, rfl, rfl, rfl, rfl, rfl⟩ := same
  rw [Text.Decimal.ofInt_injective (String.ofList_injective subjects)]

/-- Different claims make different tokens, also where an id is too large to be read back. -/
theorem eq_of_sign (issuedFits : claims.issuedAt ≤ maxWord) (expiryFits : claims.expiresAt ≤ maxWord)
    (otherIssuedFits : others.issuedAt ≤ maxWord) (otherExpiryFits : others.expiresAt ≤ maxWord)
    (same : sign secret claims = sign secret others) : claims = others := by
  rw [sign_eq_assemble, sign_eq_assemble] at same
  have payloads := (assemble_inj same).2
  have read := payload_ofBytes issuedFits expiryFits
  rw [payloads, payload_ofBytes otherIssuedFits otherExpiryFits] at read
  exact Claims.slots_injective (Except.ok.inj read).symm

/-- Tokens that were issued for different sessions are different. -/
theorem ofSession_eq_of_issue {other : Principal} {otherIssuedAt otherDuration : Nat} {otherId : String}
    {otherIssued : Issued} (issues : issue secret principal issuedAt duration tokenId = .ok issued)
    (otherIssues : issue secret other otherIssuedAt otherDuration otherId = .ok otherIssued)
    (same : issued.token = otherIssued.token) :
    Claims.ofSession principal tokenId issuedAt duration =
      Claims.ofSession other otherId otherIssuedAt otherDuration := by
  obtain ⟨fits, rfl⟩ := issue_eq_ok_iff.mp issues
  obtain ⟨otherFits, rfl⟩ := issue_eq_ok_iff.mp otherIssues
  exact eq_of_sign (Nat.le_trans (Nat.le_add_right issuedAt duration) fits) fits
    (Nat.le_trans (Nat.le_add_right otherIssuedAt otherDuration) otherFits) otherFits
    (String.ofList_injective same)

/-- An issued token can be sent in any header field. -/
theorem isVisible_of_issue (issues : issue secret principal issuedAt duration tokenId = .ok issued) :
    (∀ c ∈ issued.token.toList, Text.IsVisible c) ∧ ';' ∉ issued.token.toList ∧
      issued.token.toList ≠ [] := by
  obtain ⟨-, rfl⟩ := issue_eq_ok_iff.mp issues
  rw [String.toList_ofList, sign_eq_assemble]
  exact ⟨fun c => isVisible_of_mem_assemble, semicolon_not_mem_assemble _ _ _,
    List.append_ne_nil_of_right_ne_nil _ (List.cons_ne_nil _ _)⟩

/-- An issued token is written as JSON as it is. -/
theorem flatMap_writeChar_of_issue
    (issues : issue secret principal issuedAt duration tokenId = .ok issued) :
    issued.token.toList.flatMap Json.writeChar = issued.token.toList := by
  obtain ⟨-, rfl⟩ := issue_eq_ok_iff.mp issues
  rw [String.toList_ofList, sign_eq_assemble]
  exact Json.flatMap_writeChar fun c => writeChar_of_mem_assemble

end SessionServer.Token
