import SessionServer.Proofs.Token.RoundTrip
import SessionServer.Revocation.Register

/-!
An accepted token has no second spelling. Its text follows from its signed part, and the signed part
from the octets of header and payload; so whoever holds an accepted token cannot write it in another
way, under which a revocation of its digest would not be found.
-/

namespace SessionServer.Token
open Text.Base64 (encode)
open Text.Decimal (IsSigned maxWord)

/-- Whether octets hold a header that names one algorithm, and this one. -/
def Header.NamesAlgorithm (octets : Bytes) (name : String) : Prop :=
  ∃ members value, Json.Tree.ofBytes? octets = some (.object members) ∧
    members.filter (·.1 == "alg") = [("alg", value)] ∧
    (value = .text name ∨ value = .object [(name, .null)])

theorem KeyObject.eq_of_required {members : KeyObject.Members} {key : String}
    {test : Json.Tree → Bool} (required : KeyObject.required members key test = true) :
    ∃ value, members.filter (·.1 == key) = [(key, value)] ∧ test value = true := by
  unfold KeyObject.required KeyObject.single? at required
  cases named : members.filter (·.1 == key) with
  | nil => simp only [named, Bool.false_eq_true] at required
  | cons member others =>
    cases others with
    | nil =>
      simp only [named] at required
      have occurs : member ∈ members.filter (·.1 == key) := by
        rw [named]
        exact List.mem_singleton_self member
      have same : member.1 = key := beq_iff_eq.mp (List.mem_filter.mp occurs).2
      refine ⟨member.2, ?_, required⟩
      rw [← same]
    | cons other more => simp only [named, Bool.false_eq_true] at required

theorem Header.eq_of_isAlgorithm {value : Json.Tree} (isAlgorithm : isAlgorithm value = true) :
    value = .text algorithm ∨ value = .object [(algorithm, .null)] := by
  unfold Header.isAlgorithm at isAlgorithm
  split at isAlgorithm
  next name =>
    rw [beq_iff_eq.mp isAlgorithm]
    exact .inl rfl
  next name =>
    rw [beq_iff_eq.mp isAlgorithm]
    exact .inr rfl
  next => cases isAlgorithm

theorem Header.namesAlgorithm_of_accepts {octets : Bytes} (accepted : accepts octets = true) :
    NamesAlgorithm octets algorithm := by
  unfold accepts at accepted
  split at accepted
  next members parsed =>
    unfold isAcceptable at accepted
    rw [Bool.and_eq_true, Bool.and_eq_true] at accepted
    obtain ⟨value, single, isAlgorithm⟩ := KeyObject.eq_of_required accepted.1.1
    exact ⟨members, value, parsed, single, Header.eq_of_isAlgorithm isAlgorithm⟩
  next => cases accepted

theorem verify?_of_read {secret : Bytes} {token : String} {now : Nat} {claims : Claims}
    (accepted : read secret token now = .ok claims) :
    verify? secret token = some claims ∧ now < claims.expiresAt := by
  unfold read at accepted
  split at accepted
  next => cases accepted
  next statement signed =>
    split at accepted
    next => cases accepted
    next unexpired =>
      split at accepted
      next found named =>
        cases accepted
        refine ⟨Option.bind_eq_some_iff.mpr ⟨statement, signed, named⟩, ?_⟩
        rw [Statement.expiresAt_of_claims? named]
        exact Nat.not_le.mp unexpired
      next => cases accepted

/-- An accepted token is its signed part, a point, and the one base 64 text of the code of that part;
the signed part is the base 64 texts of a header for the one algorithm and of a payload. So two
accepted tokens with the same signed part are the same text, with the same digest. -/
theorem accepted_spelling (secret : Bytes) :
    (∀ token now claims, read secret token now = .ok claims →
      token.toList = signedPart token ++
        '.' :: encode .url (Digest.Hmac.code secret (Utf8.encode (signedPart token))) ∧
      ∃ header payload, signedPart token = encode .url header ++ '.' :: encode .url payload ∧
        Header.NamesAlgorithm header "HS256" ∧ Claims.ofBytes? payload = some claims) ∧
    (∀ token other now later claims otherClaims, read secret token now = .ok claims →
      read secret other later = .ok otherClaims → signedPart token = signedPart other →
      token = other ∧ Revocation.digest token = Revocation.digest other) := by
  have spelled {token : String} {now : Nat} {claims : Claims}
      (accepted : read secret token now = .ok claims) :
      token.toList = signedPart token ++
        '.' :: encode .url (Digest.Hmac.code secret (Utf8.encode (signedPart token))) ∧
      ∃ header payload, signedPart token = encode .url header ++ '.' :: encode .url payload ∧
        Header.NamesAlgorithm header "HS256" ∧ Claims.ofBytes? payload = some claims := by
    obtain ⟨header, payload, assembled, acceptable, parsed⟩ :=
      verify?_eq_some_iff.mp (verify?_of_read accepted).1
    have signed := signedPart_of_assemble assembled
    refine ⟨?_, header, payload, signed, Header.namesAlgorithm_of_accepts acceptable, parsed⟩
    rw [signed, assembled, assemble, signature]
  refine ⟨fun token now claims => spelled, ?_⟩
  intro token other now later claims otherClaims accepted otherAccepted same
  have equal : token = other := by
    apply String.toList_injective
    rw [(spelled accepted).1, (spelled otherAccepted).1, same]
  exact ⟨equal, congrArg Revocation.digest equal⟩

/-- The claims of a session of an hour. -/
def sessionOfAnHour : Claims :=
  { subject := 7, email := "ada@example.com", displayName := "Ada", tokenId := "id"
    issuedAt := 1700000000, expiresAt := 1700003600 }

/-- A token that was issued is accepted at different times, has the form that is said, and is the only
text that is assembled from its header and payload. -/
theorem accepted_spelling_of_sign :
    let token := String.ofList (sign [0x6B] sessionOfAnHour)
    let again := String.ofList (assemble [0x6B] (Utf8.encode Header.document.write)
      (Utf8.encode sessionOfAnHour.document.write))
    read [0x6B] token 1700000000 = .ok sessionOfAnHour ∧
      read [0x6B] again 1700003599 = .ok sessionOfAnHour ∧
      token.toList = signedPart token ++
        '.' :: encode .url (Digest.Hmac.code [0x6B] (Utf8.encode (signedPart token))) ∧
      token = again ∧ Revocation.digest token = Revocation.digest again := by
  intro token again
  have verified : verify? [0x6B] token = some sessionOfAnHour :=
    verify?_sign [0x6B] (by decide) (by decide) (by decide)
  have assembled : verify? [0x6B] again = some sessionOfAnHour :=
    verify?_eq_some_iff.mpr ⟨_, _, String.toList_ofList, accepts_document,
      Claims.ofBytes?_document (by decide) (by decide) (by decide)⟩
  have first : read [0x6B] token 1700000000 = .ok sessionOfAnHour := read_of_verify? verified _
  have last : read [0x6B] again 1700003599 = .ok sessionOfAnHour := read_of_verify? assembled _
  have same : signedPart token = signedPart again :=
    congrArg (fun chars => signedPart (String.ofList chars)) (sign_eq_assemble [0x6B] sessionOfAnHour)
  refine ⟨first, last, ((accepted_spelling [0x6B]).1 token _ _ first).1, ?_⟩
  exact (accepted_spelling [0x6B]).2 token again _ _ _ _ first last same

end SessionServer.Token
