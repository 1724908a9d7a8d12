import SessionServer.Text.Base64

/-!
Base 64 is a bijection between octet sequences and the texts that are read: reading gives back what
was written, and a text that is read is the one that would be written. The second half is what makes
reading strict; a lenient corner would give some octets a second text.
-/

namespace SessionServer.Text.Base64

theorem value?_digit (alphabet : Alphabet) {n : Nat} (small : n < 64) :
    value? alphabet (digit alphabet n) = some n := by
  cases alphabet with
  | standard => exact (by decide : ∀ n < 64, value? .standard (digit .standard n) = some n) n small
  | url => exact (by decide : ∀ n < 64, value? .url (digit .url n) = some n) n small

/-- The characters of a run of the alphabet are numbered from one of them on. -/
private theorem ofNat_sub_add (c : Char) {n shift : Nat} (same : n + shift = c.toNat) :
    Char.ofNat (shift + n) = c := by
  rw [Nat.add_comm, same, Char.ofNat_toNat]

/-- No two characters stand for the same digit. -/
theorem digit_of_value? {alphabet : Alphabet} {c : Char} {n : Nat}
    (valued : value? alphabet c = some n) : n < 64 ∧ digit alphabet n = c := by
  have ends : 'A'.toNat = 65 ∧ 'Z'.toNat = 90 ∧ 'a'.toNat = 97 ∧ 'z'.toNat = 122 ∧
      '0'.toNat = 48 ∧ '9'.toNat = 57 := by decide
  unfold value? at valued
  split at valued
  next upper =>
    obtain ⟨low, high⟩ : 'A'.toNat ≤ c.toNat ∧ c.toNat ≤ 'Z'.toNat := upper
    obtain rfl := Option.some.inj valued
    refine ⟨by omega, ?_⟩
    rw [digit, if_pos (by omega)]
    exact ofNat_sub_add c (by omega)
  next =>
  split at valued
  next lower =>
    obtain ⟨low, high⟩ : 'a'.toNat ≤ c.toNat ∧ c.toNat ≤ 'z'.toNat := lower
    obtain rfl := Option.some.inj valued
    refine ⟨by omega, ?_⟩
    rw [digit, if_neg (by omega), if_pos (by omega)]
    exact ofNat_sub_add c (by omega)
  next =>
  split at valued
  next numeral =>
    obtain ⟨low, high⟩ : '0'.toNat ≤ c.toNat ∧ c.toNat ≤ '9'.toNat := numeral
    obtain rfl := Option.some.inj valued
    refine ⟨by omega, ?_⟩
    rw [digit, if_neg (by omega), if_neg (by omega), if_pos (by omega), Nat.add_sub_cancel,
      Char.ofNat_toNat]
  next =>
  split at valued
  next same =>
    obtain rfl := Option.some.inj valued
    exact ⟨by decide, same.symm⟩
  next =>
  split at valued
  next same =>
    obtain rfl := Option.some.inj valued
    exact ⟨by decide, same.symm⟩
  next => cases valued

/-- An octet is put together again from the digits that it was cut into. -/
private theorem ofNat_eq {octet : UInt8} {n : Nat} (same : n = octet.toNat) :
    UInt8.ofNat n = octet := by
  rw [same, UInt8.ofNat_toNat]

theorem decode_encode (alphabet : Alphabet) (bytes : Bytes) :
    decode alphabet (encode alphabet bytes) = some bytes := by
  fun_induction encode alphabet bytes with
  | case1 => rfl
  | case2 a =>
    have aBound := a.toNat_lt
    have first : UInt8.ofNat (a.toNat / 4 * 4 + a.toNat % 4 * 16 / 16) = a := ofNat_eq (by omega)
    have unused : a.toNat % 4 * 16 % 16 = 0 := by omega
    simp only [decode, value?_digit alphabet (show a.toNat / 4 < 64 by omega),
      value?_digit alphabet (show a.toNat % 4 * 16 < 64 by omega), Option.bind_eq_bind,
      Option.bind_some, if_pos unused, first, Option.pure_def]
  | case3 a b =>
    have aBound := a.toNat_lt
    have bBound := b.toNat_lt
    have first : UInt8.ofNat (a.toNat / 4 * 4 + (a.toNat % 4 * 16 + b.toNat / 16) / 16) = a :=
      ofNat_eq (by omega)
    have second : UInt8.ofNat
        ((a.toNat % 4 * 16 + b.toNat / 16) % 16 * 16 + b.toNat % 16 * 4 / 4) = b :=
      ofNat_eq (by omega)
    have unused : b.toNat % 16 * 4 % 4 = 0 := by omega
    simp only [decode, value?_digit alphabet (show a.toNat / 4 < 64 by omega),
      value?_digit alphabet (show a.toNat % 4 * 16 + b.toNat / 16 < 64 by omega),
      value?_digit alphabet (show b.toNat % 16 * 4 < 64 by omega), Option.bind_eq_bind,
      Option.bind_some, if_pos unused, first, second, Option.pure_def]
  | case4 a b c rest ih =>
    have aBound := a.toNat_lt
    have bBound := b.toNat_lt
    have cBound := c.toNat_lt
    have first : UInt8.ofNat (a.toNat / 4 * 4 + (a.toNat % 4 * 16 + b.toNat / 16) / 16) = a :=
      ofNat_eq (by omega)
    have second : UInt8.ofNat ((a.toNat % 4 * 16 + b.toNat / 16) % 16 * 16 +
        (b.toNat % 16 * 4 + c.toNat / 64) / 4) = b :=
      ofNat_eq (by omega)
    have third : UInt8.ofNat ((b.toNat % 16 * 4 + c.toNat / 64) % 4 * 64 + c.toNat % 64) = c :=
      ofNat_eq (by omega)
    simp only [decode, value?_digit alphabet (show a.toNat / 4 < 64 by omega),
      value?_digit alphabet (show a.toNat % 4 * 16 + b.toNat / 16 < 64 by omega),
      value?_digit alphabet (show b.toNat % 16 * 4 + c.toNat / 64 < 64 by omega),
      value?_digit alphabet (show c.toNat % 64 < 64 by omega), ih, Option.bind_eq_bind,
      Option.bind_some, first, second, third, Option.pure_def]

private theorem toNat_octet {n : Nat} (bound : n < 256) : (UInt8.ofNat n).toNat = n :=
  UInt8.toNat_ofNat_of_lt' bound

/-- A text that is read is the text of what was read: there is no second spelling. -/
theorem eq_encode_of_decode {alphabet : Alphabet} {chars : List Char} {bytes : Bytes}
    (decoded : decode alphabet chars = some bytes) : chars = encode alphabet bytes := by
  fun_induction decode alphabet chars generalizing bytes with
  | case1 =>
    obtain rfl := Option.some.inj decoded
    rfl
  | case2 => cases decoded
  | case3 p q =>
    simp only [Option.bind_eq_bind, Option.bind_eq_some_iff] at decoded
    obtain ⟨x, xDigit, y, yDigit, decoded⟩ := decoded
    obtain ⟨xBound, rfl⟩ := digit_of_value? xDigit
    obtain ⟨yBound, rfl⟩ := digit_of_value? yDigit
    split at decoded
    next unused =>
      obtain rfl := Option.some.inj decoded
      have first := toNat_octet (show x * 4 + y / 16 < 256 by omega)
      simp only [encode, first]
      rw [show (x * 4 + y / 16) / 4 = x by omega, show (x * 4 + y / 16) % 4 * 16 = y by omega]
    next => cases decoded
  | case4 p q r =>
    simp only [Option.bind_eq_bind, Option.bind_eq_some_iff] at decoded
    obtain ⟨x, xDigit, y, yDigit, z, zDigit, decoded⟩ := decoded
    obtain ⟨xBound, rfl⟩ := digit_of_value? xDigit
    obtain ⟨yBound, rfl⟩ := digit_of_value? yDigit
    obtain ⟨zBound, rfl⟩ := digit_of_value? zDigit
    split at decoded
    next unused =>
      obtain rfl := Option.some.inj decoded
      have first := toNat_octet (show x * 4 + y / 16 < 256 by omega)
      have second := toNat_octet (show y % 16 * 16 + z / 4 < 256 by omega)
      simp only [encode, first, second]
      rw [show (x * 4 + y / 16) / 4 = x by omega,
        show (x * 4 + y / 16) % 4 * 16 + (y % 16 * 16 + z / 4) / 16 = y by omega,
        show (y % 16 * 16 + z / 4) % 16 * 4 = z by omega]
    next => cases decoded
  | case5 p q r s rest ih =>
    simp only [Option.bind_eq_bind, Option.bind_eq_some_iff] at decoded
    obtain ⟨x, xDigit, y, yDigit, z, zDigit, w, wDigit, later, restDecoded, decoded⟩ := decoded
    obtain ⟨xBound, rfl⟩ := digit_of_value? xDigit
    obtain ⟨yBound, rfl⟩ := digit_of_value? yDigit
    obtain ⟨zBound, rfl⟩ := digit_of_value? zDigit
    obtain ⟨wBound, rfl⟩ := digit_of_value? wDigit
    obtain rfl := Option.some.inj decoded
    have first := toNat_octet (show x * 4 + y / 16 < 256 by omega)
    have second := toNat_octet (show y % 16 * 16 + z / 4 < 256 by omega)
    have third := toNat_octet (show z % 4 * 64 + w < 256 by omega)
    simp only [encode, first, second, third]
    rw [show (x * 4 + y / 16) / 4 = x by omega,
      show (x * 4 + y / 16) % 4 * 16 + (y % 16 * 16 + z / 4) / 16 = y by omega,
      show (y % 16 * 16 + z / 4) % 16 * 4 + (z % 4 * 64 + w) / 64 = z by omega,
      show (z % 4 * 64 + w) % 64 = w by omega, ← ih restDecoded]

/-- The characters that texts in base 64 are made of. -/
theorem mem_encode {alphabet : Alphabet} {bytes : Bytes} {c : Char}
    (member : c ∈ encode alphabet bytes) : ∃ n < 64, c = digit alphabet n := by
  have known (n : Nat) (bound : n < 64) : ∃ m < 64, digit alphabet n = digit alphabet m :=
    ⟨n, bound, rfl⟩
  fun_induction encode alphabet bytes with
  | case1 => cases member
  | case2 a =>
    have aBound := a.toNat_lt
    rcases List.mem_cons.mp member with rfl | member
    · exact known _ (by omega)
    · rw [List.mem_singleton.mp member]
      exact known _ (by omega)
  | case3 a b =>
    have aBound := a.toNat_lt
    have bBound := b.toNat_lt
    simp only [List.mem_cons, List.not_mem_nil, or_false] at member
    rcases member with rfl | rfl | rfl
    all_goals exact known _ (by omega)
  | case4 a b c rest ih =>
    have aBound := a.toNat_lt
    have bBound := b.toNat_lt
    have cBound := c.toNat_lt
    simp only [List.mem_cons] at member
    rcases member with rfl | rfl | rfl | rfl | member
    all_goals first | exact known _ (by omega) | exact ih member

theorem point_not_mem_encode (bytes : Bytes) : '.' ∉ encode .url bytes := by
  intro member
  obtain ⟨n, bound, same⟩ := mem_encode member
  exact (by decide : ∀ n < 64, '.' ≠ digit .url n) n bound same

end SessionServer.Text.Base64
