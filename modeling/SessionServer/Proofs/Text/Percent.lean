import Mathlib.Data.List.Infix
import SessionServer.Proofs.Text.Utf8
import SessionServer.Text.Percent

/-!
Which texts mean themselves where percent signs write octets: those in which no percent sign has two
hexadecimal digits behind it.
-/

namespace SessionServer.Text.Percent
open Utf8 (encode encode_cons)

/-- Whether no percent sign of a text writes an octet. -/
def IsPlain (chars : List Char) : Prop :=
  ∀ high low, ['%', high, low] <:+: chars → Hex.value? high = none ∨ Hex.value? low = none

theorem isPlain_of_not_mem {chars : List Char} (absent : '%' ∉ chars) : IsPlain chars :=
  fun _ _ inside => absurd (inside.subset List.mem_cons_self) absent

theorem IsPlain.tail {c : Char} {rest : List Char} (plain : IsPlain (c :: rest)) : IsPlain rest :=
  fun high low inside => plain high low (List.infix_cons inside)

theorem decode_cons_of_ne {b : UInt8} (differs : b ≠ 0x25) (rest : Bytes) :
    decode (b :: rest) = b :: decode rest :=
  (decode.eq_def (b :: rest)).trans (if_neg differs)

theorem decode_append_of_not_mem {front : Bytes} (absent : 0x25 ∉ front) (rest : Bytes) :
    decode (front ++ rest) = front ++ decode rest := by
  induction front with
  | nil => rfl
  | cons b front ih =>
    rw [List.mem_cons, not_or] at absent
    rw [List.cons_append, decode_cons_of_ne (Ne.symm absent.1), ih absent.2, List.cons_append]

/-- Hexadecimal digits are characters of ASCII. -/
theorem lt_of_value? {c : Char} {n : Nat} (digit : Hex.value? c = some n) : c.toNat < 0x80 := by
  have upTo {last : Char} (le : c ≤ last) (ascii : last.toNat < 0x80) : c.toNat < 0x80 :=
    Nat.lt_of_le_of_lt (UInt32.le_iff_toNat_le.mp le) ascii
  unfold Hex.value? at digit
  split at digit
  next range => exact upTo range.2 (by decide)
  next =>
    split at digit
    next range => exact upTo range.2 (by decide)
    next =>
      split at digit
      next range => exact upTo range.2 (by decide)
      next => cases digit

theorem lt_of_value?_ofNat {b : UInt8} {n : Nat} (digit : Hex.value? (Char.ofNat b.toNat) = some n) :
    b.toNat < 0x80 := by
  have bound := b.toNat_lt
  have valid : b.toNat.isValidChar := .inl (by omega)
  have same : (Char.ofNat b.toNat).toNat = b.toNat := by
    rw [Char.ofNat, dif_pos valid]
    rfl
  exact same ▸ lt_of_value? digit

/-- The octets of a text without such percent signs stand for themselves. -/
theorem decode_encode {chars : List Char} (plain : IsPlain chars) :
    decode (encode chars) = encode chars := by
  induction chars with
  | nil => rfl
  | cons c rest ih =>
    have later := ih plain.tail
    rw [encode_cons]
    by_cases sign : c = '%'
    · subst sign
      have written : Utf8.encodeChar '%' = [0x25] := rfl
      rw [written, List.singleton_append]
      refine ((decode.eq_def (0x25 :: encode rest)).trans (if_pos rfl)).trans ?_
      split
      next high low more octets =>
        split
        next x y highDigit lowDigit =>
          -- Two digits in the octets would be two digits in the text.
          obtain ⟨others, rfl, behind⟩ :=
            Utf8.eq_cons_of_encode (lt_of_value?_ofNat highDigit) octets
          obtain ⟨others, rfl, -⟩ := Utf8.eq_cons_of_encode (lt_of_value?_ofNat lowDigit) behind
          rcases plain _ _ (List.prefix_append ['%', _, _] others).isInfix with none | none
          · cases highDigit.symm.trans none
          · cases lowDigit.symm.trans none
        next => rw [← octets, later]
      next => rfl
    · have absent : 0x25 ∉ Utf8.encodeChar c := by
        intro member
        have there : '%' ∈ [c] :=
          Utf8.mem_of_mem_encode (b := 0x25) (by decide) (List.mem_append_left _ member)
        exact sign (List.mem_singleton.mp there).symm
      rw [decode_append_of_not_mem absent, later]

end SessionServer.Text.Percent
