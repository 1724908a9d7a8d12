import SessionServer.Credential.Presented
import SessionServer.Proofs.Text.Blank
import SessionServer.Proofs.Text.Utf8

/-!
A token behind the bearer scheme is found again by whoever reads the request.
-/

namespace SessionServer

namespace Http

/-- Whether a character of a field's value can be read. -/
def IsReadable (c : Char) : Prop := c.toNat = 0x09 ∨ 0x20 ≤ c.toNat ∧ c.toNat < 0x7F

instance (c : Char) : Decidable (IsReadable c) := inferInstanceAs (Decidable (_ ∨ _))

theorem isReadable_of_isVisible {c : Char} (visible : Text.IsVisible c) : IsReadable c := by
  obtain ⟨least, most⟩ := visible
  exact .inr ⟨Nat.le_of_succ_le least, most⟩

theorem encode_of_isReadable {chars : List Char} (readable : ∀ c ∈ chars, IsReadable c) :
    Utf8.encode chars = chars.map fun c => UInt8.ofNat c.toNat := by
  induction chars with
  | nil => rfl
  | cons c rest ih =>
    have ascii : c.toNat < 0x80 := by
      rcases readable c List.mem_cons_self with tab | ⟨-, most⟩ <;> omega
    rw [Utf8.encode_cons, Utf8.encodeChar_of_ascii ascii,
      ih fun other member => readable other (List.mem_cons_of_mem _ member)]
    rfl

/-- What was read as text is made of readable characters. -/
theorem isReadable_of_text? {value : FieldValue} {chars : List Char} (read : value.text? = some chars) :
    ∀ c ∈ chars, IsReadable c := by
  have table : ∀ n < 0x7F, (Char.ofNat n).toNat = n := by decide
  unfold FieldValue.text? at read
  split at read
  next text =>
    cases read
    intro c member
    obtain ⟨b, inValue, rfl⟩ := List.mem_map.mp member
    have readable := List.all_eq_true.mp text b inValue
    unfold isTextOctet at readable
    rw [Bool.or_eq_true, Bool.and_eq_true, decide_eq_true_eq, decide_eq_true_eq, decide_eq_true_eq,
      UInt8.le_iff_toNat_le, UInt8.lt_iff_toNat_lt] at readable
    rcases readable with rfl | ⟨least, most⟩
    · exact .inl rfl
    · rw [IsReadable, table b.toNat most]
      exact .inr ⟨least, most⟩
  next => cases read

theorem isTextOctet_of_isReadable {c : Char} (readable : IsReadable c) :
    isTextOctet (UInt8.ofNat c.toNat) = true := by
  have table : ∀ n < 0x7F, n = 0x09 ∨ 0x20 ≤ n → isTextOctet (UInt8.ofNat n) = true := by decide
  rcases readable with tab | ⟨least, most⟩
  · exact table c.toNat (by omega) (.inl tab)
  · exact table c.toNat most (.inr least)

theorem isFieldOctet_of_isTextOctet {b : UInt8} (text : isTextOctet b = true) :
    isFieldOctet b = true := by
  unfold isTextOctet at text
  unfold isFieldOctet
  rw [Bool.or_eq_true, Bool.and_eq_true, decide_eq_true_eq, decide_eq_true_eq, decide_eq_true_eq] at *
  rcases text with tab | ⟨least, most⟩
  · exact .inl tab
  · exact .inr ⟨least, UInt8.ne_of_lt most⟩

/-- Readable characters can be sent as a field's value, and are read back from it. -/
theorem FieldValue.text?_of_isReadable {chars : List Char} (readable : ∀ c ∈ chars, IsReadable c) :
    ∃ value, FieldValue.ofBytes? (Utf8.encode chars) = some value ∧ value.text? = some chars := by
  have octets := encode_of_isReadable readable
  have text : (Utf8.encode chars).all isTextOctet = true := by
    rw [octets, List.all_map, List.all_eq_true]
    intro c member
    exact isTextOctet_of_isReadable (readable c member)
  have admitted : (Utf8.encode chars).all isFieldOctet = true := by
    rw [List.all_eq_true] at text ⊢
    intro b member
    exact isFieldOctet_of_isTextOctet (text b member)
  refine ⟨⟨Utf8.encode chars, admitted⟩, dif_pos admitted, ?_⟩
  rw [FieldValue.text?, if_pos text]
  show some ((Utf8.encode chars).map fun b => Char.ofNat b.toNat) = some chars
  rw [octets, List.map_map]
  refine congrArg some ((List.map_congr_left ?_).trans (List.map_id chars))
  intro c member
  have small : c.toNat < 256 := by
    rcases readable c member with tab | ⟨-, most⟩ <;> omega
  show Char.ofNat (UInt8.ofNat c.toNat).toNat = c
  rw [UInt8.toNat_ofNat_of_lt' small, Char.ofNat_toNat]

end Http

namespace Credential
open Http (IsReadable)

/-- The fields of a request whose only credential is a token behind the bearer scheme. -/
def bearerFields? (token : List Char) : Option Http.Headers :=
  (Http.FieldValue.ofBytes? (Utf8.encode ("Bearer".toList ++ ' ' :: token))).map fun value =>
    { fields := [("authorization", value)] }

/-- A token behind the bearer scheme is found, if there are no blanks around it. -/
theorem bearer?_of_isTrimmed {headers : Http.Headers} {value : Http.FieldValue} {token : List Char}
    (field : headers.first? "authorization" = some value)
    (read : value.text? = some ("Bearer".toList ++ ' ' :: token))
    (trimmed : Text.IsTrimmed token) (nonempty : token ≠ []) :
    bearer? headers = some (String.ofList token) := by
  have whole : Text.trim ("Bearer".toList ++ ' ' :: token) = "Bearer".toList ++ ' ' :: token := by
    have joined : "Bearer".toList ++ ' ' :: token = "Bearer ".toList ++ token := rfl
    rw [joined]
    apply Text.IsTrimmed.trim_eq
    apply Text.isTrimmed_append _ trimmed nonempty (by decide)
    rintro c ⟨⟩
    decide
  have absent : ' ' ∉ "Bearer".toList := by decide
  have isScheme : Text.lowerAscii "Bearer".toList = "bearer".toList := by decide
  simp only [bearer?, field, Option.bind_eq_bind, Option.bind_some, read, whole,
    Text.splitOnce_append token absent, trimmed.trim_eq, isScheme, ne_eq, nonempty,
    not_false_eq_true, and_self, if_true]

/-- Any readable token can be sent behind the bearer scheme. -/
theorem exists_bearerValue {token : List Char} (readable : ∀ c ∈ token, IsReadable c) :
    ∃ value, Http.FieldValue.ofBytes? (Utf8.encode ("Bearer".toList ++ ' ' :: token)) = some value ∧
      value.text? = some ("Bearer".toList ++ ' ' :: token) := by
  refine Http.FieldValue.text?_of_isReadable ?_
  intro c member
  rcases List.mem_append.mp member with scheme | rest
  · have letters : "Bearer".toList.all (fun c => decide (Text.IsVisible c)) = true := by decide
    exact Http.isReadable_of_isVisible (of_decide_eq_true (List.all_eq_true.mp letters c scheme))
  · rcases List.mem_cons.mp rest with rfl | inToken
    · exact .inr (by decide)
    · exact readable c inToken

/-- A token of visible characters is presented by such a request. -/
theorem presented?_of_isVisible {token : List Char} (visible : ∀ c ∈ token, Text.IsVisible c)
    (nonempty : token ≠ []) :
    ∃ headers, bearerFields? token = some headers ∧
      presented? headers = some (String.ofList token) := by
  obtain ⟨value, sent, read⟩ := exists_bearerValue fun c member =>
    Http.isReadable_of_isVisible (visible c member)
  refine ⟨{ fields := [("authorization", value)] }, by rw [bearerFields?, sent]; rfl, ?_⟩
  show bearer? { fields := [("authorization", value)] } = some (String.ofList token)
  exact bearer?_of_isTrimmed rfl read (Text.isTrimmed_of_isVisible visible) nonempty

end Credential

end SessionServer
