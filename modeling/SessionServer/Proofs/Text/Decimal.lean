import SessionServer.Text.Decimal

/-!
Numerals that were written are read back as the number they were written for.
-/

namespace SessionServer.Text.Decimal

theorem ofList_ofNat (n : Nat) : String.ofList (ofNat n) = toString n := rfl

theorem ofList_ofInt (n : Int) : String.ofList (ofInt n) = toString n := by
  cases n with
  | ofNat n => rfl
  | negSucc n =>
    rw [ofInt, if_pos (Int.negSucc_lt_zero n), String.ofList_cons]
    rfl

theorem isDigit_of_mem_ofNat {n : Nat} {c : Char} (member : c ∈ ofNat n) : c.isDigit = true :=
  Nat.isDigit_of_mem_toDigits (by decide) (by decide) member

theorem ofNat_ne_nil (n : Nat) : ofNat n ≠ [] := Nat.toDigits_ne_nil

/-- A digit stands for at most nine. -/
theorem toNat_of_isDigit {c : Char} (digit : c.isDigit = true) :
    0x30 ≤ c.toNat ∧ c.toNat ≤ 0x39 := by
  rw [Char.isDigit, Bool.and_eq_true, decide_eq_true_eq, decide_eq_true_eq] at digit
  exact digit

/-- Appending digits to a number does not make it smaller. -/
theorem le_ofDigitChars (chars : List Char) (value : Nat) :
    value ≤ Nat.ofDigitChars 10 chars value := by
  induction chars generalizing value with
  | nil => exact Nat.le_of_eq Nat.ofDigitChars_nil.symm
  | cons c rest ih =>
    rw [Nat.ofDigitChars_cons]
    have later := ih (10 * value + (c.toNat - '0'.toNat))
    omega

/-- No numeral but that of zero begins with a zero. -/
theorem head_ofNat_ne_zero {n : Nat} (positive : 0 < n) {c : Char} {rest : List Char}
    (written : ofNat n = c :: rest) : c ≠ '0' := by
  induction n using Nat.strongRecOn generalizing c rest with
  | ind n ih =>
    rw [ofNat, Nat.toDigits_eq_if (by decide)] at written
    by_cases small : n < 10
    · rw [if_pos small] at written
      obtain ⟨rfl, -⟩ := List.cons.inj written
      exact (by decide : ∀ n < 10, 0 < n → Nat.digitChar n ≠ '0') n small positive
    · rw [if_neg small] at written
      obtain ⟨first, others, front⟩ := List.exists_cons_of_ne_nil (ofNat_ne_nil (n / 10))
      rw [ofNat] at front
      rw [front, List.cons_append] at written
      obtain ⟨rfl, -⟩ := List.cons.inj written
      exact ih (n / 10) (by omega) (by omega) front

theorem digits?_of_all {chars : List Char} (digits : ∀ c ∈ chars, c.isDigit = true) (value : Nat) :
    digits? chars value = some (Nat.ofDigitChars 10 chars value) := by
  induction chars generalizing value with
  | nil => rw [digits?, Nat.ofDigitChars_nil]
  | cons c rest ih =>
    rw [digits?, if_pos (digits c List.mem_cons_self), Nat.ofDigitChars_cons]
    exact ih (fun other member => digits other (List.mem_cons_of_mem c member)) _

theorem nat?_ofNat (n : Nat) : nat? (ofNat n) = some n := by
  have filled : (ofNat n).isEmpty = false := List.isEmpty_eq_false_iff.mpr (ofNat_ne_nil n)
  rw [nat?, filled, if_neg Bool.false_ne_true, digits?_of_all (fun _ => isDigit_of_mem_ofNat), ofNat,
    Nat.ofDigitChars_ten_toDigits]

theorem ofNat_injective {n m : Nat} (same : ofNat n = ofNat m) : n = m := by
  apply Option.some.inj
  rw [← nat?_ofNat, ← nat?_ofNat, same]

/-- No numeral without a sign begins with one. -/
theorem minus_not_mem_ofNat (n : Nat) : '-' ∉ ofNat n := by
  intro member
  have digit := isDigit_of_mem_ofNat member
  exact absurd digit (by decide)

/-- No numeral has a comma in it. -/
theorem comma_not_mem_ofInt (n : Int) : ',' ∉ ofInt n := by
  have digits (m : Nat) : ',' ∉ ofNat m := by
    intro member
    exact absurd (isDigit_of_mem_ofNat member) (by decide)
  unfold ofInt
  by_cases negative : n < 0
  · rw [if_pos negative, List.mem_cons, not_or]
    exact ⟨by decide, digits _⟩
  · rw [if_neg negative]
    exact digits _

theorem ofInt_injective {n m : Int} (same : ofInt n = ofInt m) : n = m := by
  unfold ofInt at same
  by_cases negative : n < 0
  · by_cases otherNegative : m < 0
    · rw [if_pos negative, if_pos otherNegative] at same
      have magnitude := ofNat_injective (List.cons.inj same).2
      omega
    · rw [if_pos negative, if_neg otherNegative] at same
      exact absurd (same ▸ List.mem_cons_self) (minus_not_mem_ofNat m.natAbs)
  · by_cases otherNegative : m < 0
    · rw [if_neg negative, if_pos otherNegative] at same
      exact absurd (same ▸ List.mem_cons_self) (minus_not_mem_ofNat n.natAbs)
    · rw [if_neg negative, if_neg otherNegative] at same
      have magnitude := ofNat_injective same
      omega

/-- The numbers that fit a signed 64-bit word. -/
def IsSigned (n : Int) : Prop := -(maxSigned + 1 : Int) ≤ n ∧ n ≤ maxSigned

instance (n : Int) : Decidable (IsSigned n) := inferInstanceAs (Decidable (_ ∧ _))

/-- Whatever numeral is read with a sign, its number fits a signed 64-bit word. -/
theorem isSigned_of_signed? {chars : List Char} {n : Int} (read : signed? chars = some n) :
    IsSigned n := by
  unfold signed? at read
  unfold IsSigned
  split at read
  next => grind
  next => grind
  next => grind

theorem le_of_word? {chars : List Char} {n : Nat} (read : word? chars = some n) : n ≤ maxWord := by
  unfold word? at read
  simp only at read
  split at read
  next =>
    split at read
    next fits =>
      cases read
      exact fits
    next => cases read
  next => cases read

/-- The numeral of an integer is read back as that integer if it fits a signed 64-bit word, and not at all
otherwise. -/
theorem signed?_ofInt_eq (n : Int) : signed? (ofInt n) = if IsSigned n then some n else none := by
  unfold ofInt
  by_cases negative : n < 0
  · rw [if_pos negative]
    have bound : n.natAbs ≤ maxSigned + 1 ↔ IsSigned n := by
      unfold IsSigned
      omega
    have value : -(n.natAbs : Int) = n := by omega
    simp only [signed?, nat?_ofNat, if_true, bound, value]
  · rw [if_neg negative]
    have bound : n.natAbs ≤ maxSigned ↔ IsSigned n := by
      unfold IsSigned
      omega
    have value : (n.natAbs : Int) = n := by omega
    obtain ⟨c, rest, written⟩ := List.exists_cons_of_ne_nil (ofNat_ne_nil n.natAbs)
    have member : c ∈ ofNat n.natAbs := written ▸ List.mem_cons_self
    have digit : c.isDigit = true := isDigit_of_mem_ofNat member
    have read : nat? (c :: rest) = some n.natAbs := written ▸ nat?_ofNat n.natAbs
    rw [written]
    unfold signed?
    split
    next same =>
      obtain ⟨rfl, -⟩ := List.cons.inj same
      exact absurd digit (by decide)
    next same =>
      obtain ⟨rfl, -⟩ := List.cons.inj same
      exact absurd digit (by decide)
    next =>
      simp only [read, Bool.false_eq_true, if_false, bound, value]

/-- Every signed 64-bit number is read back from its numeral. -/
theorem signed?_ofInt {n : Int} (signed : IsSigned n) : signed? (ofInt n) = some n := by
  rw [signed?_ofInt_eq, if_pos signed]

end SessionServer.Text.Decimal
