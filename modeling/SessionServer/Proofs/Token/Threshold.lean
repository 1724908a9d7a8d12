import SessionServer.Proofs.Json.Range
import SessionServer.Proofs.Token.Spelling

/-!
What time has to do with reading a token: nothing but its expiry. Whatever is wrong with a token is wrong
at all times, and what is read from one that is good is the same at all times.
-/

namespace SessionServer.Token
open Json.Record (Read Hold)
open Text.Decimal (maxWord IsSigned)

/-- Whether claims fit the words that they are kept in. -/
structure Claims.IsInRange (claims : Claims) : Prop where
  subject : IsSigned claims.subject
  issuedAt : claims.issuedAt ≤ maxWord
  expiresAt : claims.expiresAt ≤ maxWord

/-- Whether an entry of a payload, if it is a time, fits a word. -/
def Entry.Fits : Entry → Prop
  | .text _ => True
  | .time seconds => seconds ≤ maxWord

theorem textField_fits {name : String} {bytes rest : Bytes} {entry : Entry}
    (read : (textField name).read bytes = .ok (entry, rest)) : entry.Fits := by
  simp only [textField, Json.Reader.map] at read
  split at read
  next =>
    cases read
    trivial
  next => cases read

theorem timeField_fits {name : String} {bytes rest : Bytes} {entry : Entry}
    (read : (timeField name).read bytes = .ok (entry, rest)) : entry.Fits := by
  simp only [timeField, Json.Reader.map] at read
  split at read
  next seconds left found =>
    cases read
    exact Json.Record.le_of_natural found
  next => cases read

theorem read_payload : Read Entry.Fits payload.fields := by
  intro field member bytes entry rest read
  simp only [payload, List.mem_cons, List.not_mem_nil, or_false] at member
  rcases member with rfl | rfl | rfl | rfl | rfl | rfl
  · exact textField_fits read
  · exact textField_fits read
  · exact textField_fits read
  · exact textField_fits read
  · exact timeField_fits read
  · exact timeField_fits read

/-- The times that a payload states fit their words, whoever wrote it. -/
theorem Statement.le_of_ofBytes? {bytes : Bytes} {statement : Statement}
    (states : ofBytes? bytes = some statement) :
    statement.issuedAt ≤ maxWord ∧ statement.expiresAt ≤ maxWord := by
  unfold ofBytes? at states
  split at states
  next subject email name tokenId issuedAt expiresAt parsed =>
    have fits : Hold Entry.Fits _ := read_payload.hold_of_ofBytes parsed
    split at states
    next =>
      cases states
      exact ⟨fits (.time issuedAt) (by simp), fits (.time expiresAt) (by simp)⟩
    next => cases states
  next => cases states

theorem Claims.isInRange_of_verify? {secret : Bytes} {token : String} {claims : Claims}
    (verified : verify? secret token = some claims) : claims.IsInRange := by
  obtain ⟨statement, signed, named⟩ := Option.bind_eq_some_iff.mp verified
  obtain ⟨-, payload, -, -, states⟩ := signed?_eq_some_iff.mp signed
  obtain ⟨issuedFits, expiryFits⟩ := Statement.le_of_ofBytes? states
  obtain ⟨id, number, rfl⟩ := Option.map_eq_some_iff.mp named
  exact ⟨Text.Decimal.isSigned_of_signed? number, issuedFits, expiryFits⟩

/-- A token that has no claims is rejected at all times: for its signature, for its expiry or for its
subject, whichever is looked at first. -/
theorem read_of_unverified {secret : Bytes} {token : String} (unverified : verify? secret token = none)
    (now : Nat) : read secret token now = .error .invalid := by
  unfold verify? at unverified
  unfold read
  cases signed : signed? secret token with
  | none => rfl
  | some statement =>
    rw [signed, Option.bind_some] at unverified
    simp only [unverified, ite_self]

/-- Reading any text as a token depends on the time through one threshold. The text is rejected at all
times, or it has claims that are read from it at every time before their expiry, always the same ones, and
at no later time. So a text that was rejected once is rejected from then on. -/
theorem read_threshold (secret : Bytes) (token : String) :
    ((∀ now, read secret token now = .error .invalid) ∨
      ∃ claims : Claims, claims.IsInRange ∧ ∀ now,
        (now < claims.expiresAt → read secret token now = .ok claims) ∧
        (claims.expiresAt ≤ now → read secret token now = .error .invalid)) ∧
    (∀ now error, read secret token now = .error error →
      ∀ later, now ≤ later → read secret token later = .error .invalid) ∧
    ∀ now later claims others, read secret token now = .ok claims →
      read secret token later = .ok others → claims = others := by
  cases verified : verify? secret token with
  | none =>
    have rejected := read_of_unverified verified
    refine ⟨.inl rejected, fun _ _ _ later _ => rejected later, ?_⟩
    intro now later claims others accepted
    rw [rejected now] at accepted
    cases accepted
  | some claims =>
    have accepted := read_of_verify? verified
    have early {now : Nat} (unexpired : now < claims.expiresAt) : read secret token now = .ok claims :=
      (accepted now).trans (if_pos unexpired)
    have late {now : Nat} (expired : claims.expiresAt ≤ now) :
        read secret token now = .error .invalid :=
      (accepted now).trans (if_neg (Nat.not_lt.mpr expired))
    refine ⟨.inr ⟨claims, Claims.isInRange_of_verify? verified, fun now => ⟨early, late⟩⟩, ?_, ?_⟩
    · intro now error rejected later order
      rcases Nat.lt_or_ge now claims.expiresAt with unexpired | expired
      · rw [early unexpired] at rejected
        cases rejected
      · exact late (Nat.le_trans expired order)
    · intro now later first second readFirst readSecond
      have same := (verify?_of_read readFirst).1.symm.trans (verify?_of_read readSecond).1
      exact Option.some.inj same

/-- A payload that states a name for the subject. -/
def namedPayload : Bytes :=
  Utf8.ofString ("\x7b\"sub\":\"ada\",\"email\":\"\",\"name\":\"\",\"jti\":\"\",\"iat\":0," ++
    "\"exp\":1700003600\x7d")

/-- A token that has a good signature and has not expired is rejected if its subject is no number, now as at
any other time; and one that was accepted for its last second is not accepted again. -/
theorem read_threshold_last_second :
    let named := String.ofList (assemble [0x6B] (Utf8.encode Header.document.write) namedPayload)
    let token := String.ofList (sign [0x6B] sessionOfAnHour)
    ((signed? [0x6B] named).map Statement.expiresAt = some 1700003600 ∧
      ∀ now, read [0x6B] named now = .error .invalid) ∧
    read [0x6B] token 1700003599 = .ok sessionOfAnHour ∧
      read [0x6B] token 1700003600 = .error .invalid ∧ read [0x6B] token maxWord = .error .invalid := by
  intro named token
  have states : Statement.ofBytes? namedPayload =
      some { subject := "ada", email := "", displayName := "", tokenId := "", issuedAt := 0
             expiresAt := 1700003600 } := by decide +kernel
  have signed : signed? [0x6B] named = some _ :=
    signed?_eq_some_iff.mpr ⟨_, _, String.toList_ofList, accepts_document, states⟩
  have unverified : verify? [0x6B] named = none := by
    rw [verify?, signed, Option.bind_some]
    decide +kernel
  have verified : verify? [0x6B] token = some sessionOfAnHour :=
    verify?_sign [0x6B] (by decide) (by decide) (by decide)
  have expired : read [0x6B] token 1700003600 = .error .invalid := read_of_verify? verified _
  refine ⟨⟨?_, read_of_unverified unverified⟩, read_of_verify? verified _, expired, ?_⟩
  · rw [signed]
    rfl
  · exact (read_threshold [0x6B] token).2.1 _ _ expired _ (by decide)

end SessionServer.Token
