import SessionServer.Proofs.Json.Numeral
import SessionServer.Proofs.Json.Text

/-!
Objects that were written are read back as records: each member whose key names a field fills the
field's slot, every other member is passed over.
-/

namespace SessionServer.Json
open Utf8 (encode encodeChar)

theorem ne_of_isDigit {b c : UInt8} (digit : isDigit b = true) (notDigit : isDigit c = false) :
    b ≠ c := by
  rintro rfl
  rw [digit] at notDigit
  cases notDigit

theorem isBlank_of_isDigit {b : UInt8} (digit : isDigit b = true) : isBlank b = false := by
  have other {c : UInt8} (notDigit : isDigit c = false) : decide (b = c) = false :=
    decide_eq_false (ne_of_isDigit digit notDigit)
  rw [isBlank, other (by decide), other (by decide), other (by decide), other (by decide)]
  rfl

theorem skipBlanks_of_not {b : UInt8} (notBlank : isBlank b = false) (rest : Bytes) :
    skipBlanks (b :: rest) = b :: rest := by
  rw [skipBlanks, notBlank, if_neg Bool.false_ne_true]

theorem Record.text_written (content : String) (rest : Bytes) :
    Record.text (encode (writeText content) ++ rest) = .ok (content, rest) := by
  rw [encode_writeText, List.cons_append, List.append_assoc, List.singleton_append, Record.text,
    skipBlanks_of_not (by decide)]
  simp only [if_true, Reader.map, quoted_written, String.ofList_toList]

theorem Record.natural_written {n : Nat} (fits : n ≤ Text.Decimal.maxWord) {rest : Bytes}
    (ends : endsNumber rest = true) :
    Record.natural (encode (Text.Decimal.ofNat n) ++ rest) = .ok (n, rest) := by
  have read := number_written fits ends
  obtain ⟨b, more, written, digit⟩ := encode_ofNat_cons n
  rw [written, List.cons_append] at read ⊢
  rw [Record.natural, skipBlanks_of_not (isBlank_of_isDigit digit)]
  simp only [digit, if_true, read]

theorem skipValue_of_skipOpening {bytes rest : Bytes}
    (opened : skipOpening (skipBlanks bytes) = .ok (none, rest)) : skipValue bytes = .ok rest := by
  rw [skipValue, skipWithin, opened]
  simp only [skipEnds]

theorem skipValue_text (content : String) (rest : Bytes) :
    skipValue (encode (writeText content) ++ rest) = .ok rest := by
  apply skipValue_of_skipOpening
  rw [encode_writeText, List.cons_append, List.append_assoc, List.singleton_append,
    skipBlanks_of_not (by decide)]
  simp only [skipOpening]
  rw [if_neg (by decide), if_neg (by decide), if_neg (by decide), if_neg (by decide),
    if_neg (by decide), if_pos trivial, skipText_written]

theorem skipValue_natural (n : Nat) {rest : Bytes} (ends : endsNumber rest = true) :
    skipValue (encode (Text.Decimal.ofNat n) ++ rest) = .ok rest := by
  have skipped := skipNumber_written n ends
  obtain ⟨b, more, written, digit⟩ := encode_ofNat_cons n
  have other {c : UInt8} (notDigit : isDigit c = false) : b ≠ c := ne_of_isDigit digit notDigit
  apply skipValue_of_skipOpening
  rw [written, List.cons_append] at skipped ⊢
  rw [skipBlanks_of_not (isBlank_of_isDigit digit)]
  simp only [skipOpening]
  rw [if_neg (other (by decide)), if_neg (other (by decide)), if_neg (other (by decide)),
    if_neg (other (by decide)), if_pos digit, skipped]

/-- What members do to the slots of a record's fields, one member after the other. -/
inductive Fills {α : Type} (fields : List (Field α)) :
    List (String × Document) → Slots α → Slots α → Prop where
  | done (slots : Slots α) : Fills fields [] slots slots
  | known {key : String} {value : Document} {index : Nat} {field : Field α} {content : α}
      {members : List (String × Document)} {slots final : Slots α}
      (found : Record.find? fields key = some (index, field)) (free : slots[index]? = some none)
      (reads : ∀ rest, endsNumber rest = true →
        field.read (encode value.write ++ rest) = .ok (content, rest))
      (later : Fills fields members (slots.set index (some content)) final) :
      Fills fields ((key, value) :: members) slots final
  | unknown {key : String} {value : Document} {members : List (String × Document)}
      {slots final : Slots α} (missing : Record.find? fields key = none)
      (skips : ∀ rest, endsNumber rest = true → skipValue (encode value.write ++ rest) = .ok rest)
      (later : Fills fields members slots final) :
      Fills fields ((key, value) :: members) slots final

/-- The characters of members that follow others. -/
def writeLater (members : List (String × Document)) : List Char :=
  members.flatMap fun member => ',' :: (writeText member.1 ++ ':' :: member.2.write)

theorem writeMembers_cons (key : String) (value : Document) (members : List (String × Document)) :
    writeMembers ((key, value) :: members) =
      writeText key ++ ':' :: (value.write ++ writeLater members) := by
  induction members generalizing key value with
  | nil => rw [writeMembers, writeLater, List.flatMap_nil, List.append_nil]
  | cons member rest ih =>
    obtain ⟨next, content⟩ := member
    rw [writeMembers, ih]
    · simp only [writeLater, List.flatMap_cons, List.cons_append, List.append_assoc]
    · exact List.cons_ne_nil _ _

/-- The octets of a member from its key on. -/
def memberBytes (key : String) (value : Document) : Bytes :=
  encode (key.toList.flatMap writeChar) ++ 0x22 :: 0x3A :: encode value.write

theorem encode_member (key : String) (value : Document) (more : List Char) :
    encode (writeText key ++ ':' :: (value.write ++ more)) =
      0x22 :: (memberBytes key value ++ encode more) := by
  have point : encodeChar ':' = [0x3A] := by decide
  rw [memberBytes, Utf8.encode_append, encode_writeText, Utf8.encode_cons, point,
    Utf8.encode_append]
  simp only [List.cons_append, List.nil_append, List.append_assoc]

theorem encode_writeLater_cons (key : String) (value : Document)
    (members : List (String × Document)) :
    encode (writeLater ((key, value) :: members)) =
      0x2C :: 0x22 :: (memberBytes key value ++ encode (writeLater members)) := by
  have comma : encodeChar ',' = [0x2C] := by decide
  have split : writeLater ((key, value) :: members) =
      ',' :: (writeText key ++ ':' :: (value.write ++ writeLater members)) := by
    simp only [writeLater, List.flatMap_cons, List.cons_append, List.append_assoc]
  rw [split, Utf8.encode_cons, comma, encode_member, List.singleton_append]

/-- Neither a comma nor a brace goes on with a number. -/
theorem endsNumber_later (members : List (String × Document)) (rest : Bytes) :
    endsNumber (encode (writeLater members) ++ 0x7D :: rest) = true := by
  cases members with
  | nil => rfl
  | cons member later =>
    rw [encode_writeLater_cons]
    rfl

theorem nextKey_first (rest : Bytes) : nextKey true (0x22 :: rest) = .ok (true, rest) := by
  rw [nextKey, skipBlanks_of_not (by decide)]
  simp only [if_true]
  rw [if_neg (by decide)]

theorem nextKey_later (rest : Bytes) :
    nextKey false (0x2C :: 0x22 :: rest) = .ok (true, rest) := by
  rw [nextKey, skipBlanks_of_not (by decide)]
  simp only [skipBlanks_of_not (show isBlank 0x22 = false by decide), if_true]
  rw [if_neg (by decide), if_neg (by decide)]

theorem nextKey_end (first : Bool) (rest : Bytes) :
    nextKey first (0x7D :: rest) = .ok (false, 0x7D :: rest) := by
  rw [nextKey, skipBlanks_of_not (by decide)]
  simp only [if_true]

theorem colon_next (rest : Bytes) : colon (0x3A :: rest) = .ok rest := by
  rw [colon, skipBlanks_of_not (by decide)]
  simp only [if_true]

namespace Record
variable {α : Type} {fields : List (Field α)}

/-- A member behind its opening quote fills its field's slot. -/
theorem membersFrom_known {first : Bool} {slots : Slots α} {bytes rest : Bytes} {key : String}
    {value : Document} {index : Nat} {field : Field α} {content : α}
    (next : nextKey first bytes = .ok (true, memberBytes key value ++ rest))
    (found : find? fields key = some (index, field)) (free : slots[index]? = some none)
    (read : field.read (encode value.write ++ rest) = .ok (content, rest)) (fuel : Nat) :
    membersFrom fields (fuel + 1) first slots bytes =
      membersFrom fields fuel false (slots.set index (some content)) rest := by
  simp only [memberBytes, List.append_assoc, List.cons_append] at next
  simp only [membersFrom, next, quoted_written, String.ofList_toList, found, free, Option.getD_some,
    Option.isSome_none, Bool.false_eq_true, if_false, colon_next, read, within]

/-- A member that names no field is passed over. -/
theorem membersFrom_unknown {first : Bool} {slots : Slots α} {bytes rest : Bytes} {key : String}
    {value : Document} (next : nextKey first bytes = .ok (true, memberBytes key value ++ rest))
    (missing : find? fields key = none)
    (skip : skipValue (encode value.write ++ rest) = .ok rest) (fuel : Nat) :
    membersFrom fields (fuel + 1) first slots bytes =
      membersFrom fields fuel false slots rest := by
  simp only [memberBytes, List.append_assoc, List.cons_append] at next
  simp only [membersFrom, next, quoted_written, String.ofList_toList, missing, colon_next, skip,
    within]

/-- Reading members up to the brace that closes their object does to the slots what the members say.
The induction follows the members; each is read with the comma in front of it. -/
theorem membersFrom_later {members : List (String × Document)} {slots final : Slots α}
    (fills : Fills fields members slots final) (complete : missing? fields final = none)
    {fuel : Nat} (enough : members.length < fuel) (rest : Bytes) :
    membersFrom fields fuel false slots (encode (writeLater members) ++ 0x7D :: rest) =
      .ok (final, 0x7D :: rest) := by
  induction fills generalizing fuel with
  | done slots =>
    obtain ⟨fuel, rfl⟩ := Nat.exists_eq_add_one.mpr enough
    simp only [writeLater, List.flatMap_nil, Utf8.encode_nil, List.nil_append, membersFrom,
      nextKey_end, complete]
  | @known key value index field content members slots final found free reads later ih =>
    obtain ⟨fuel, rfl⟩ := Nat.exists_eq_add_one.mpr (Nat.zero_lt_of_lt enough)
    rw [encode_writeLater_cons, List.cons_append, List.cons_append, List.append_assoc,
      membersFrom_known (nextKey_later _) found free (reads _ (endsNumber_later members rest))]
    exact ih complete (Nat.lt_of_succ_lt_succ enough)
  | @unknown key value members slots final missing skips later ih =>
    obtain ⟨fuel, rfl⟩ := Nat.exists_eq_add_one.mpr (Nat.zero_lt_of_lt enough)
    rw [encode_writeLater_cons, List.cons_append, List.cons_append, List.append_assoc,
      membersFrom_unknown (nextKey_later _) missing (skips _ (endsNumber_later members rest))]
    exact ih complete (Nat.lt_of_succ_lt_succ enough)

/-- Each member takes an octet at least. -/
theorem length_le_encode_writeLater (members : List (String × Document)) :
    members.length ≤ (encode (writeLater members)).length := by
  induction members with
  | nil => exact Nat.zero_le _
  | cons member later ih =>
    rw [encode_writeLater_cons]
    simp only [List.length_cons, List.length_append]
    omega

theorem length_le_encode_writeMembers (members : List (String × Document)) :
    members.length ≤ (encode (writeMembers members)).length := by
  cases members with
  | nil => exact Nat.zero_le _
  | cons member later =>
    have bound := length_le_encode_writeLater later
    rw [writeMembers_cons, encode_member]
    simp only [List.length_cons, List.length_append]
    omega

/-- Reading the members of an object from its opening brace on. -/
theorem membersFrom_written {members : List (String × Document)} {slots final : Slots α}
    (fills : Fills fields members slots final) (complete : missing? fields final = none)
    {fuel : Nat} (enough : members.length < fuel) (rest : Bytes) :
    membersFrom fields fuel true slots (encode (writeMembers members) ++ 0x7D :: rest) =
      .ok (final, 0x7D :: rest) := by
  obtain ⟨fuel, rfl⟩ := Nat.exists_eq_add_one.mpr (Nat.zero_lt_of_lt enough)
  cases fills with
  | done =>
    simp only [writeMembers, Utf8.encode_nil, List.nil_append, membersFrom, nextKey_end, complete]
  | @known key value index field content members _ _ found free reads later =>
    rw [writeMembers_cons, encode_member, List.cons_append, List.append_assoc,
      membersFrom_known (nextKey_first _) found free (reads _ (endsNumber_later members rest))]
    exact membersFrom_later later complete (Nat.lt_of_succ_lt_succ enough) rest
  | @unknown key value members _ _ missing skips later =>
    rw [writeMembers_cons, encode_member, List.cons_append, List.append_assoc,
      membersFrom_unknown (nextKey_first _) missing (skips _ (endsNumber_later members rest))]
    exact membersFrom_later later complete (Nat.lt_of_succ_lt_succ enough) rest

/-- An object that was written fills the slots of a record as its members say. -/
theorem ofBytes_written {record : Record α} {members : List (String × Document)} {final : Slots α}
    (fills : Fills record.fields members (List.replicate record.fields.length none) final)
    (complete : missing? record.fields final = none) :
    record.ofBytes (encode (Document.object members).write) = .ok final := by
  have opening : encodeChar '\x7b' = [0x7B] := by decide
  have closing : encode ['\x7d'] = [0x7D] := by decide
  have bound := length_le_encode_writeMembers members
  have enough : members.length < (encode (writeMembers members) ++ [0x7D]).length + 1 := by
    rw [List.length_append]
    omega
  have read := membersFrom_written fills complete enough []
  rw [Document.write, Utf8.encode_cons, opening, Utf8.encode_append, closing,
    List.singleton_append, ofBytes, Record.read, skipBlanks_of_not (by decide)]
  simp only [if_true, object, read]
  rfl

end Record

end SessionServer.Json
