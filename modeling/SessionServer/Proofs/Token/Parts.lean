import SessionServer.Proofs.Text.Base64
import SessionServer.Proofs.Text.Blank
import SessionServer.Proofs.Text.Split
import SessionServer.Token.Codec

/-!
The parts of a token. A token with a good signature is its header, its payload and its signature in
their only base 64 texts; so all of its text follows from the octets of header and payload.
-/

namespace SessionServer.Token
open Text.Base64 (Alphabet encode decode)

/-- The text of the token with these octets for header and payload. -/
def assemble (secret header payload : Bytes) : List Char :=
  let input := signingInput (encode .url header) (encode .url payload)
  input ++ '.' :: encode .url (signature secret input)

theorem sign_eq_assemble (secret : Bytes) (claims : Claims) :
    sign secret claims =
      assemble secret (Utf8.encode Header.document.write) (Utf8.encode claims.document.write) := rfl

theorem splitAll_assemble (secret header payload : Bytes) :
    Text.splitAll '.' (assemble secret header payload) =
      [encode .url header, encode .url payload,
        encode .url (signature secret (signingInput (encode .url header) (encode .url payload)))] := by
  have absent := Text.Base64.point_not_mem_encode
  simp only [assemble, signingInput, List.append_assoc, List.cons_append]
  rw [Text.splitAll_append_cons _ (absent header), Text.splitAll_append_cons _ (absent payload),
    Text.splitAll_of_not_mem (absent _)]

/-- The octets of header and payload can be told from the text of a token. -/
theorem assemble_inj {secret header payload otherHeader otherPayload : Bytes}
    (same : assemble secret header payload = assemble secret otherHeader otherPayload) :
    header = otherHeader ∧ payload = otherPayload := by
  have parts := congrArg (Text.splitAll '.') same
  rw [splitAll_assemble, splitAll_assemble] at parts
  obtain ⟨headers, others⟩ := List.cons.inj parts
  obtain ⟨payloads, -⟩ := List.cons.inj others
  have decoded {first second : Bytes} (texts : encode .url first = encode .url second) :
      first = second := by
    have equal := congrArg (decode .url) texts
    rw [Text.Base64.decode_encode, Text.Base64.decode_encode] at equal
    exact Option.some.inj equal
  exact ⟨decoded headers, decoded payloads⟩

/-- Tokens are made of points and of digits in base 64. -/
theorem mem_assemble {secret header payload : Bytes} {c : Char}
    (member : c ∈ assemble secret header payload) :
    c = '.' ∨ ∃ n < 64, c = Text.Base64.digit .url n := by
  simp only [assemble, signingInput, List.append_assoc, List.cons_append, List.mem_append,
    List.mem_cons] at member
  rcases member with inHeader | point | inPayload | point | inCode
  · exact .inr (Text.Base64.mem_encode inHeader)
  · exact .inl point
  · exact .inr (Text.Base64.mem_encode inPayload)
  · exact .inl point
  · exact .inr (Text.Base64.mem_encode inCode)

/-- Tokens can be sent anywhere: they are made of visible characters alone. -/
theorem isVisible_of_mem_assemble {secret header payload : Bytes} {c : Char}
    (member : c ∈ assemble secret header payload) : Text.IsVisible c := by
  rcases mem_assemble member with rfl | ⟨n, bound, rfl⟩
  · decide
  · exact (by decide : ∀ n < 64, Text.IsVisible (Text.Base64.digit .url n)) n bound

/-- Tokens can be sent as cookies: nothing in them ends the value of one. -/
theorem semicolon_not_mem_assemble (secret header payload : Bytes) :
    ';' ∉ assemble secret header payload := by
  intro member
  rcases mem_assemble member with point | ⟨n, bound, same⟩
  · exact absurd point (by decide)
  · exact (by decide : ∀ n < 64, ';' ≠ Text.Base64.digit .url n) n bound same

/-- Tokens can be written as JSON as they are. -/
theorem writeChar_of_mem_assemble {secret header payload : Bytes} {c : Char}
    (member : c ∈ assemble secret header payload) : Json.writeChar c = [c] := by
  rcases mem_assemble member with rfl | ⟨n, bound, rfl⟩
  · decide
  · exact (by decide : ∀ n < 64, Json.writeChar (Text.Base64.digit .url n) = [Text.Base64.digit .url n])
      n bound

/-- A text of three parts is these parts with points between them. -/
theorem eq_of_splitAll_three {chars header payload code : List Char}
    (split : Text.splitAll '.' chars = [header, payload, code]) :
    chars = signingInput header payload ++ '.' :: code := by
  obtain ⟨rest, rfl, -, afterHeader⟩ := Text.eq_of_splitAll_cons_cons split
  obtain ⟨last, rfl, -, afterPayload⟩ := Text.eq_of_splitAll_cons_cons afterHeader
  obtain ⟨rfl, -⟩ := Text.eq_of_splitAll_singleton afterPayload
  simp only [signingInput, List.append_assoc, List.cons_append]

/-- Exactly the assembled texts of an acceptable header and payload have a good signature. -/
theorem signed?_eq_some_iff {secret : Bytes} {token : String} {statement : Statement} :
    signed? secret token = some statement ↔
      ∃ header payload, token.toList = assemble secret header payload ∧
        Header.accepts header = true ∧ Statement.ofBytes? payload = some statement := by
  constructor
  · intro signed
    unfold signed? at signed
    split at signed
    next header payload code split =>
      simp only [Option.bind_eq_bind, Option.bind_eq_some_iff] at signed
      obtain ⟨headerBytes, headerDecoded, payloadBytes, payloadDecoded, codeBytes, codeDecoded,
        checked⟩ := signed
      split at checked
      next good =>
        rw [Bool.and_eq_true, beq_iff_eq] at good
        obtain ⟨accepted, rfl⟩ := good
        refine ⟨headerBytes, payloadBytes, ?_, accepted, checked⟩
        rw [eq_of_splitAll_three split, Text.Base64.eq_encode_of_decode codeDecoded,
          Text.Base64.eq_encode_of_decode headerDecoded,
          Text.Base64.eq_encode_of_decode payloadDecoded, assemble]
      next => cases checked
    next => cases signed
  · rintro ⟨header, payload, assembled, accepted, read⟩
    unfold signed?
    rw [assembled, splitAll_assemble]
    simp only [Text.Base64.decode_encode, Option.bind_eq_bind, Option.bind_some, accepted,
      Bool.true_and, beq_self_eq_true, if_true, read]

/-- The claims of a token are those of the payload that it was assembled from. -/
theorem verify?_eq_some_iff {secret : Bytes} {token : String} {claims : Claims} :
    verify? secret token = some claims ↔
      ∃ header payload, token.toList = assemble secret header payload ∧
        Header.accepts header = true ∧ Claims.ofBytes? payload = some claims := by
  simp only [verify?, Claims.ofBytes?, Option.bind_eq_some_iff]
  constructor
  · rintro ⟨statement, signed, named⟩
    obtain ⟨header, payload, assembled, accepted, states⟩ := signed?_eq_some_iff.mp signed
    exact ⟨header, payload, assembled, accepted, statement, states, named⟩
  · rintro ⟨header, payload, assembled, accepted, statement, states, named⟩
    exact ⟨statement, signed?_eq_some_iff.mpr ⟨header, payload, assembled, accepted, states⟩, named⟩

/-- The part of a text that a signature would be over: what stands in front of its last point. -/
def signedPart (token : String) : List Char :=
  ((token.toList.reverse.dropWhile (· ≠ '.')).drop 1).reverse

theorem signedPart_eq {token : String} {input code : List Char}
    (shape : token.toList = input ++ '.' :: code) (absent : '.' ∉ code) :
    signedPart token = input := by
  have passed : ∀ c ∈ code.reverse, decide (c ≠ '.') = true := by
    intro c member
    exact decide_eq_true fun same => absent (same ▸ List.mem_reverse.mp member)
  rw [signedPart, shape, List.reverse_append, List.reverse_cons, List.append_assoc,
    List.singleton_append, List.dropWhile_append_of_pos passed]
  simp

theorem signedPart_of_assemble {token : String} {secret header payload : Bytes}
    (assembled : token.toList = assemble secret header payload) :
    signedPart token = signingInput (encode .url header) (encode .url payload) :=
  signedPart_eq assembled (Text.Base64.point_not_mem_encode _)

end SessionServer.Token
