import SessionServer.Json.Record
import SessionServer.Proofs.Text.Decimal
import SessionServer.Proofs.Text.Utf8

/-!
Numerals that were written are read back as the same number if it fits a 64-bit word, and passed over
in any case. What follows must not go on with the number.
-/

namespace SessionServer.Json
open Utf8 (encode encodeChar)

/-- Whether a number in front of these octets ends there. -/
def endsNumber : Bytes → Bool
  | [] => true
  | b :: _ => !isDigit b && b ≠ 0x2E && !isExponentMark b

/-- What may follow a number does not begin with a digit. -/
theorem isDigit_of_endsNumber {b : UInt8} {more : Bytes} (ends : endsNumber (b :: more) = true) :
    isDigit b = false := by
  simp only [endsNumber, Bool.and_eq_true, Bool.not_eq_true'] at ends
  exact ends.1.1

theorem encodeChar_digit {c : Char} (digit : c.isDigit = true) :
    ∃ b, encodeChar c = [b] ∧ isDigit b = true ∧ digitValue b = c.toNat - '0'.toNat ∧
      (b = 0x30 → c = '0') := by
  obtain ⟨low, high⟩ := Text.Decimal.toNat_of_isDigit digit
  have value : (UInt8.ofNat c.toNat).toNat = c.toNat :=
    UInt8.toNat_ofNat_of_lt' (show c.toNat < 256 by omega)
  refine ⟨_, Utf8.encodeChar_of_ascii (by omega), ?_, ?_, ?_⟩
  · have lower : (0x30 : UInt8) ≤ UInt8.ofNat c.toNat := by
      rw [UInt8.le_iff_toNat_le, value]
      exact low
    have upper : UInt8.ofNat c.toNat ≤ 0x39 := by
      rw [UInt8.le_iff_toNat_le, value]
      exact high
    rw [isDigit, decide_eq_true lower, decide_eq_true upper, Bool.and_self]
  · rw [digitValue, value]
    rfl
  · intro zero
    rw [zero] at value
    exact Char.toNat_inj.mp value.symm

theorem skipDigits_of_endsNumber {rest : Bytes} (ends : endsNumber rest = true) (count : Nat) :
    skipDigits rest count = (count, rest) := by
  cases rest with
  | nil => rfl
  | cons b more =>
    rw [skipDigits, isDigit_of_endsNumber ends, if_neg Bool.false_ne_true]

theorem takeDigits_of_endsNumber {rest : Bytes} (ends : endsNumber rest = true) (value count : Nat) :
    takeDigits rest value count = (value, count, rest) := by
  cases rest with
  | nil => rfl
  | cons b more =>
    rw [takeDigits, isDigit_of_endsNumber ends, Bool.false_and, if_neg Bool.false_ne_true]

/-- Digits of a number that fits a word all fit. -/
theorem takeDigits_digits {chars : List Char} (digits : ∀ c ∈ chars, c.isDigit = true) {value : Nat}
    (fits : Nat.ofDigitChars 10 chars value ≤ Text.Decimal.maxWord) {rest : Bytes}
    (ends : endsNumber rest = true) (count : Nat) :
    takeDigits (encode chars ++ rest) value count =
      (Nat.ofDigitChars 10 chars value, count + chars.length, rest) := by
  induction chars generalizing value count with
  | nil =>
    rw [Utf8.encode_nil, List.nil_append, takeDigits_of_endsNumber ends, Nat.ofDigitChars_nil]
    rfl
  | cons c more ih =>
    obtain ⟨b, octet, isDigit, digitValue, -⟩ := encodeChar_digit (digits c List.mem_cons_self)
    rw [Nat.ofDigitChars_cons] at fits
    have smaller := Text.Decimal.le_ofDigitChars more (10 * value + (c.toNat - '0'.toNat))
    have bound : 10 * value + (c.toNat - '0'.toNat) ≤ Text.Decimal.maxWord := by omega
    rw [Utf8.encode_cons, octet, List.singleton_append, List.cons_append, takeDigits, isDigit,
      digitValue, decide_eq_true bound, Bool.and_self, if_pos rfl,
      ih (fun other member => digits other (List.mem_cons_of_mem c member)) fits,
      Nat.ofDigitChars_cons, List.length_cons]
    rw [show count + 1 + more.length = count + (more.length + 1) by omega]

theorem skipDigits_digits {chars : List Char} (digits : ∀ c ∈ chars, c.isDigit = true)
    {rest : Bytes} (ends : endsNumber rest = true) (count : Nat) :
    skipDigits (encode chars ++ rest) count = (count + chars.length, rest) := by
  induction chars generalizing count with
  | nil => exact skipDigits_of_endsNumber ends count
  | cons c more ih =>
    obtain ⟨b, octet, isDigit, -, -⟩ := encodeChar_digit (digits c List.mem_cons_self)
    rw [Utf8.encode_cons, octet, List.singleton_append, List.cons_append, skipDigits, isDigit,
      if_pos rfl, ih fun other member => digits other (List.mem_cons_of_mem c member),
      List.length_cons]
    rw [show count + 1 + more.length = count + (more.length + 1) by omega]

theorem afterWhole_of_endsNumber {rest : Bytes} (ends : endsNumber rest = true) (value : Nat) :
    afterWhole false value 0 rest = .ok (.natural value, rest) := by
  cases rest with
  | nil => rfl
  | cons b more =>
    simp only [endsNumber, Bool.and_eq_true, Bool.not_eq_true', decide_eq_true_eq] at ends
    obtain ⟨⟨-, notPoint⟩, notMark⟩ := ends
    simp only [afterWhole, if_neg notPoint, notMark, Bool.false_eq_true, if_false, ne_eq,
      not_true_eq_false]

theorem skipAfterWhole_of_endsNumber {rest : Bytes} (ends : endsNumber rest = true) :
    skipAfterWhole rest = .ok rest := by
  cases rest with
  | nil => rfl
  | cons b more =>
    simp only [endsNumber, Bool.and_eq_true, Bool.not_eq_true', decide_eq_true_eq] at ends
    obtain ⟨⟨-, notPoint⟩, notMark⟩ := ends
    rw [skipAfterWhole, if_neg notPoint, notMark, if_neg Bool.false_ne_true]

/-- A numeral is the digit zero alone, or begins with another digit. -/
theorem encode_ofNat (n : Nat) :
    (n = 0 ∧ encode (Text.Decimal.ofNat n) = [0x30]) ∨
      ∃ b chars, encode (Text.Decimal.ofNat n) = b :: encode chars ∧ isDigit b = true ∧ b ≠ 0x30 ∧
        (∀ c ∈ chars, c.isDigit = true) ∧ Nat.ofDigitChars 10 chars (digitValue b) = n := by
  rcases Nat.eq_zero_or_pos n with rfl | positive
  · exact .inl ⟨rfl, by decide⟩
  · refine .inr ?_
    obtain ⟨c, chars, written⟩ := List.exists_cons_of_ne_nil (Text.Decimal.ofNat_ne_nil n)
    have digits : ∀ other ∈ c :: chars, other.isDigit = true :=
      written ▸ fun other => Text.Decimal.isDigit_of_mem_ofNat
    obtain ⟨b, octet, isDigit, digitValue, zero⟩ := encodeChar_digit (digits c List.mem_cons_self)
    refine ⟨b, chars, by rw [written, Utf8.encode_cons, octet, List.singleton_append], isDigit, ?_,
      fun other member => digits other (List.mem_cons_of_mem c member), ?_⟩
    · intro isZero
      exact Text.Decimal.head_ofNat_ne_zero positive written (zero isZero)
    · have value : Nat.ofDigitChars 10 (c :: chars) 0 = n := by
        rw [← written]
        exact Nat.ofDigitChars_ten_toDigits
      rw [Nat.ofDigitChars_cons, Nat.mul_zero, Nat.zero_add] at value
      rw [digitValue, value]

theorem number_written {n : Nat} (fits : n ≤ Text.Decimal.maxWord) {rest : Bytes}
    (ends : endsNumber rest = true) :
    number false (encode (Text.Decimal.ofNat n) ++ rest) = .ok (.natural n, rest) := by
  rcases encode_ofNat n with ⟨rfl, zero⟩ | ⟨b, chars, written, isDigit, notZero, digits, value⟩
  · rw [zero, List.singleton_append]
    cases rest with
    | nil => exact afterWhole_of_endsNumber ends 0
    | cons next more =>
      simp only [number, if_true, isDigit_of_endsNumber ends, Bool.false_eq_true, if_false]
      exact afterWhole_of_endsNumber ends 0
  · rw [written, List.cons_append]
    simp only [number, if_neg notZero, isDigit, if_true,
      takeDigits_digits digits (value ▸ fits) ends, skipDigits_of_endsNumber ends, value]
    exact afterWhole_of_endsNumber ends n

theorem skipNumber_written (n : Nat) {rest : Bytes} (ends : endsNumber rest = true) :
    skipNumber (encode (Text.Decimal.ofNat n) ++ rest) = .ok rest := by
  rcases encode_ofNat n with ⟨-, zero⟩ | ⟨b, chars, written, isDigit, notZero, digits, -⟩
  · rw [zero, List.singleton_append]
    cases rest with
    | nil => rfl
    | cons next more =>
      simp only [skipNumber, if_true, isDigit_of_endsNumber ends, Bool.false_eq_true, if_false]
      exact skipAfterWhole_of_endsNumber ends
  · rw [written, List.cons_append]
    simp only [skipNumber, if_neg notZero, isDigit, if_true, skipDigits_digits digits ends]
    exact skipAfterWhole_of_endsNumber ends

/-- The first octet of a numeral. -/
theorem encode_ofNat_cons (n : Nat) :
    ∃ b more, encode (Text.Decimal.ofNat n) = b :: more ∧ isDigit b = true := by
  rcases encode_ofNat n with ⟨-, zero⟩ | ⟨b, chars, written, isDigit, -, -, -⟩
  · exact ⟨_, _, zero, by decide⟩
  · exact ⟨_, _, written, isDigit⟩

end SessionServer.Json
