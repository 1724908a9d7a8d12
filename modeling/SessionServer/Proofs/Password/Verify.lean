import SessionServer.Password.Hash
import SessionServer.Proofs.Text.Base64
import SessionServer.Proofs.Text.Split

/-!
A password is accepted by the hash that was made of it. The hash has the length that was asked for, and
its text is read back as what it was written from.
-/

namespace SessionServer.Digest.Blake2b

theorem compress_size (chain : Array UInt64) (block : Bytes) (count : Nat) (last : Bool) :
    (compress chain block count last).size = 8 := Array.size_ofFn

theorem absorb_size {chain : Array UInt64} (whole : chain.size = 8) (fuel : Nat) (message : Bytes)
    (count : Nat) : (absorb fuel chain message count).size = 8 := by
  induction fuel generalizing chain message count with
  | zero => exact whole
  | succ fuel ih =>
    simp only [absorb]
    split
    next => exact compress_size ..
    next => exact ih (compress_size ..) _ _

/-- A digest has the length that was asked for, up to the most there is. -/
theorem digest_length {length : Nat} (fits : length ≤ 64) (message : Bytes) :
    (digest length message).length = length := by
  have whole : (initial.modify 0 (· ^^^ 0x01010000 ^^^ UInt64.ofNat length)).size = 8 :=
    Array.size_modify
  have size := absorb_size whole (message.length / 128 + 1) message 0
  have octetsEach (words : List UInt64) : (words.flatMap octets).length = 8 * words.length := by
    induction words with
    | nil => rfl
    | cons word rest ih =>
      rw [List.flatMap_cons, List.length_append, ih, List.length_cons]
      show 8 + 8 * rest.length = 8 * (rest.length + 1)
      omega
  simp only [digest, List.length_take, octetsEach, Array.length_toList, size]
  omega

end SessionServer.Digest.Blake2b

namespace SessionServer.Text.Base64

theorem encode_length (alphabet : Alphabet) (bytes : Bytes) :
    (encode alphabet bytes).length = (4 * bytes.length + 2) / 3 := by
  fun_induction encode alphabet bytes with
  | case1 => rfl
  | case2 a => simp only [List.length_cons, List.length_nil]
  | case3 a b => simp only [List.length_cons, List.length_nil]
  | case4 a b c rest ih =>
    simp only [List.length_cons, ih]
    omega

theorem dollar_not_mem_encode (bytes : Bytes) : '$' ∉ encode .standard bytes := by
  intro member
  obtain ⟨n, bound, same⟩ := mem_encode member
  exact (by decide : ∀ n < 64, '$' ≠ digit .standard n) n bound same

end SessionServer.Text.Base64

namespace SessionServer.Password

theorem Argon2.hash_length (parameters : Parameters) {length : Nat} (fits : length ≤ 64)
    (password salt : Bytes) : (hash parameters length password salt).length = length := by
  simp only [hash, longDigest, if_pos fits, Digest.Blake2b.digest_length fits]

namespace Encoded

/-- The hash of a new password, with the costs that are usual. -/
def ofNew (salt output : Bytes) : Encoded := { variant := .hybrid, salt := salt, output := output }

theorem compute_length {encoded : Encoded} (fits : encoded.output.length ≤ 64) (password : String) :
    (encoded.compute password).length = encoded.output.length :=
  Argon2.hash_length _ fits _ _

variable {salt output : Bytes}

/-- Of an output only its length matters to what is computed. -/
theorem compute_ofNew {other : Bytes} (same : output.length = other.length) (password : String) :
    (ofNew salt output).compute password = (ofNew salt other).compute password := by
  simp only [compute, ofNew, same]

theorem salt?_encode (long : 8 ≤ salt.length) (short : salt.length ≤ 48) :
    salt? (Text.Base64.encode .standard salt) = some salt := by
  have fits : 4 ≤ (Text.Base64.encode .standard salt).length ∧
      (Text.Base64.encode .standard salt).length ≤ 64 := by
    rw [Text.Base64.encode_length]
    omega
  simp only [salt?, if_pos fits, Text.Base64.decode_encode, Option.bind_eq_bind, Option.bind_some,
    if_pos long]

theorem output?_encode (long : 10 ≤ output.length) (short : output.length ≤ 64) :
    output? (Text.Base64.encode .standard output) = some output := by
  simp only [output?, octets?, Text.Base64.decode_encode, Option.bind_eq_bind, Option.bind_some,
    if_pos short, if_pos long]

/-- The text of a new password's hash, field by field. -/
theorem splitAll_toText (salt output : Bytes) :
    Text.splitAll '$' (ofNew salt output).toText.toList =
      [[], "argon2id".toList, "v=19".toList, "m=19456,t=2,p=1".toList,
        Text.Base64.encode .standard salt, Text.Base64.encode .standard output] := by
  have written : (ofNew salt output).toText.toList =
      [] ++ '$' :: ("argon2id".toList ++ '$' :: ("v=19".toList ++ '$' ::
        ("m=19456,t=2,p=1".toList ++ '$' :: (Text.Base64.encode .standard salt ++ '$' ::
          Text.Base64.encode .standard output)))) := by
    have front : (Encoded.front .hybrid 19 {}).toList = "$argon2id$v=19$m=19456,t=2,p=1".toList := by
      decide +kernel
    simp only [toText, ofNew, String.toList_append, String.toList_ofList, front, List.append_assoc]
    rfl
  rw [written, Text.splitAll_append_cons _ (by decide), Text.splitAll_append_cons _ (by decide),
    Text.splitAll_append_cons _ (by decide), Text.splitAll_append_cons _ (by decide),
    Text.splitAll_append_cons _ (Text.Base64.dollar_not_mem_encode salt),
    Text.splitAll_of_not_mem (Text.Base64.dollar_not_mem_encode output)]

/-- The text of a new password's hash is read back. -/
theorem ofString?_toText (saltLong : 8 ≤ salt.length) (saltShort : salt.length ≤ 48)
    (outputLong : 10 ≤ output.length) (outputShort : output.length ≤ 64) :
    ofString? (ofNew salt output).toText = some (ofNew salt output) := by
  have variant : variant? "argon2id".toList = some .hybrid := by decide
  have version (rest : List (List Char)) : version? ("v=19".toList :: rest) = some (19, rest) := by
    have number : number? ['1', '9'] = some 19 := by decide
    have bare : ['1', '9'].contains ',' = false := by decide
    show version? (('v' :: '=' :: ['1', '9']) :: rest) = _
    simp only [version?, bare, number, Bool.false_eq_true, if_false, Option.bind_eq_bind,
      Option.bind_some, or_true, if_true]
  have costs (rest : List (List Char)) :
      parameters? ("m=19456,t=2,p=1".toList :: rest) = some ({}, rest) := by
    have read : costs? "m=19456,t=2,p=1".toList = some {} := by decide +kernel
    rw [parameters?, if_pos (by decide), read]
    rfl
  unfold ofString?
  rw [splitAll_toText]
  simp only [variant, version, costs, salt?_encode saltLong saltShort,
    output?_encode outputLong outputShort, Option.bind_eq_bind, Option.bind_some]
  rfl

end Encoded

variable {salt : Bytes}

/-- What is stored of a new password is the text of a hash that the password computes again. -/
theorem exists_hash (salt : Bytes) (password : String) :
    ∃ output : Bytes, output.length = outputLength ∧
      (Encoded.ofNew salt output).compute password = output ∧
      hash salt password = (Encoded.ofNew salt output).toText := by
  have zeros : (List.replicate outputLength (0 : UInt8)).length = outputLength := List.length_replicate
  have short : (List.replicate outputLength (0 : UInt8)).length ≤ 64 :=
    Nat.le_trans (Nat.le_of_eq zeros) (by decide)
  have length : ((Encoded.ofNew salt (List.replicate outputLength 0)).compute password).length =
      outputLength := (Encoded.compute_length short password).trans zeros
  exact ⟨_, length, Encoded.compute_ofNew (length.trans zeros.symm) password, rfl⟩

/-- A password is accepted by its own hash, whatever the salt. -/
theorem verify_hash (long : 8 ≤ salt.length) (short : salt.length ≤ 48) (password : String) :
    verify password (hash salt password) = true := by
  obtain ⟨output, length, again, stored⟩ := exists_hash salt password
  have outputLong : 10 ≤ output.length := Nat.le_trans (by decide) (Nat.le_of_eq length.symm)
  have outputShort : output.length ≤ 64 := Nat.le_trans (Nat.le_of_eq length) (by decide)
  rw [verify, stored, Encoded.ofString?_toText long short outputLong outputShort]
  show ((Encoded.ofNew salt output).compute password == output) = true
  rw [again]
  exact beq_self_eq_true output

end SessionServer.Password
