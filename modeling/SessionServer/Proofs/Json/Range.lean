import SessionServer.Json.Record

/-!
What can come out of reading. A natural number that was read fits a 64-bit word, and every value of a
record was read by one of its fields.
-/

namespace SessionServer.Json
open Text.Decimal (maxWord)

/-- Whether a result is no natural number, be it another number or a refusal. -/
def IsNotNatural (result : Except Fault (Number × Bytes)) : Prop :=
  ∀ value rest, result ≠ .ok (.natural value, rest)

theorem isNotNatural_error (fault : Fault) : IsNotNatural (.error fault) := nofun

theorem isNotNatural_double (negative : Bool) (significand : Nat) (exponent : Int) (rest : Bytes) :
    IsNotNatural (double negative significand exponent rest) := by
  unfold double
  split
  next => exact nofun
  next => exact isNotNatural_error _

/-- An exponent makes a double, whatever its digits are. The induction is on the digits. -/
theorem isNotNatural_exponentDigits (negative : Bool) (significand : Nat) (start : Int) (positive : Bool)
    (bytes : Bytes) (value : Nat) :
    IsNotNatural (exponentDigits negative significand start positive bytes value) := by
  induction bytes generalizing value with
  | nil => exact isNotNatural_double _ _ _ _
  | cons b rest ih =>
    unfold exponentDigits
    split
    next =>
      split
      next =>
        split
        next => exact isNotNatural_error _
        next => exact nofun
      next => exact ih _
    next => exact isNotNatural_double _ _ _ _

theorem isNotNatural_exponent (negative : Bool) (significand : Nat) (start : Int) (bytes : Bytes) :
    IsNotNatural (exponent negative significand start bytes) := by
  unfold exponent
  simp only
  split
  next => exact isNotNatural_error _
  next =>
    split
    next => exact isNotNatural_exponentDigits _ _ _ _ _ _
    next => exact isNotNatural_error _

theorem isNotNatural_afterDigits (negative : Bool) (significand : Nat) (start : Int) (bytes : Bytes) :
    IsNotNatural (afterDigits negative significand start bytes) := by
  unfold afterDigits
  split
  next =>
    split
    next => exact isNotNatural_exponent _ _ _ _
    next => exact isNotNatural_double _ _ _ _
  next => exact isNotNatural_double _ _ _ _

theorem isNotNatural_fraction (negative : Bool) (significand : Nat) (start : Int) (bytes : Bytes) :
    IsNotNatural (fraction negative significand start bytes) := by
  unfold fraction
  simp only
  split
  next =>
    split
    next => exact isNotNatural_error _
    next => exact isNotNatural_double _ _ _ _
  next =>
    split
    next => exact isNotNatural_afterDigits _ _ _ _
    next =>
      split
      next => exact isNotNatural_error _
      next => exact isNotNatural_afterDigits _ _ _ _

/-- A natural number is what its digits make; nothing behind them changes it. -/
theorem eq_of_afterWhole {negative : Bool} {significand dropped value : Nat} {bytes rest : Bytes}
    (read : afterWhole negative significand dropped bytes = .ok (.natural value, rest)) :
    value = significand := by
  have exact {left : Bytes} (plain : (if dropped ≠ 0 then double negative significand dropped left
      else if negative then
        if significand = 0 ∨ Text.Decimal.maxSigned + 1 < significand then
          double true significand 0 left
        else .ok (.negative (-(significand : Int)), left)
      else .ok (.natural significand, left)) = .ok (.natural value, rest)) : value = significand := by
    split at plain
    next => exact absurd plain (isNotNatural_double _ _ _ _ _ _)
    next =>
      split at plain
      next =>
        split at plain
        next => exact absurd plain (isNotNatural_double _ _ _ _ _ _)
        next => cases plain
      next =>
        cases plain
        rfl
  unfold afterWhole at read
  simp only at read
  split at read
  next => exact exact read
  next =>
    split at read
    next => exact absurd read (isNotNatural_fraction _ _ _ _ _ _)
    next =>
      split at read
      next => exact absurd read (isNotNatural_exponent _ _ _ _ _ _)
      next => exact exact read

/-- Digits are taken only as long as their number fits a word. -/
theorem takeDigits_le (bytes : Bytes) {value : Nat} (fits : value ≤ maxWord) (count : Nat) :
    (takeDigits bytes value count).1 ≤ maxWord := by
  induction bytes generalizing value count with
  | nil => exact fits
  | cons b rest ih =>
    rw [takeDigits]
    split
    next room =>
      rw [Bool.and_eq_true, decide_eq_true_eq] at room
      exact ih room.2 _
    next => exact fits

theorem digitValue_le (b : UInt8) : digitValue b ≤ maxWord := by
  have small := b.toNat_lt
  show b.toNat - 0x30 ≤ 18446744073709551615
  omega

theorem le_of_number {negative : Bool} {value : Nat} {bytes rest : Bytes}
    (read : number negative bytes = .ok (.natural value, rest)) : value ≤ maxWord := by
  unfold number at read
  split at read
  next => cases read
  next b more =>
    split at read
    next =>
      split at read
      next =>
        rw [eq_of_afterWhole read]
        exact Nat.zero_le _
      next =>
        split at read
        next => cases read
        next =>
          rw [eq_of_afterWhole read]
          exact Nat.zero_le _
    next =>
      split at read
      next =>
        rw [eq_of_afterWhole read]
        exact takeDigits_le more (digitValue_le b) 0
      next => cases read

namespace Record

theorem refuseKind_ne_ok {β : Type} (expected : String) (bytes : Bytes) (value : β) :
    refuseKind expected bytes ≠ .ok value := by
  unfold refuseKind
  cases mismatch bytes with
  | error => exact nofun
  | ok => exact nofun

theorem le_of_natural {value : Nat} {bytes rest : Bytes} (read : natural bytes = .ok (value, rest)) :
    value ≤ maxWord := by
  unfold natural at read
  split at read
  next => cases read
  next =>
    split at read
    next =>
      split at read
      next => cases read
      next found =>
        cases read
        exact le_of_number found
      next => cases read
    next => exact absurd read (refuseKind_ne_ok _ _ _)

variable {α : Type} {P : α → Prop} {fields : List (Field α)} {slots final : Slots α}
  {bytes rest : Bytes}

/-- Whether all that the fields can read has a property. -/
def Read (P : α → Prop) (fields : List (Field α)) : Prop :=
  ∀ field ∈ fields, ∀ bytes value rest, field.read bytes = .ok (value, rest) → P value

/-- Whether all values in the slots have a property. -/
def Hold (P : α → Prop) (slots : Slots α) : Prop := ∀ value, some value ∈ slots → P value

theorem Hold.set (hold : Hold P slots) {value : α} (holds : P value) (index : Nat) :
    Hold P (slots.set index (some value)) := by
  intro other member
  rcases List.mem_or_eq_of_mem_set member with before | same
  · exact hold other before
  · cases same
    exact holds

theorem hold_replicate (P : α → Prop) (count : Nat) : Hold P (List.replicate count none) := by
  intro value member
  cases List.eq_of_mem_replicate member

theorem mem_of_find? {key : String} {index : Nat} {field : Field α}
    (found : find? fields key = some (index, field)) : field ∈ fields := by
  unfold find? at found
  split at found
  next =>
    obtain ⟨other, there, same⟩ := Option.map_eq_some_iff.mp found
    cases same
    exact List.mem_of_getElem? there
  next => cases found

theorem of_within {β : Type} {place : Place} {result : Except Fault β} {value : β}
    (read : within place result = .ok value) : result = .ok value := by
  cases result with
  | error => cases read
  | ok => exact read

/-- Every member fills a slot by what its field reads, or none. The induction is on the fuel, which each
member takes one of. -/
theorem Read.hold_of_membersFrom (reads : Read P fields) {fuel : Nat} {first : Bool}
    (hold : Hold P slots) (read : membersFrom fields fuel first slots bytes = .ok (final, rest)) :
    Hold P final := by
  induction fuel generalizing first slots bytes with
  | zero => cases read
  | succ fuel ih =>
    unfold membersFrom at read
    split at read
    next => cases read
    next =>
      split at read
      next => cases read
      next =>
        cases read
        exact hold
    next =>
      split at read
      next => cases read
      next =>
        simp only at read
        split at read
        next =>
          split at read
          next => cases read
          next =>
            split at read
            next => cases read
            next => exact ih hold read
        next index field found =>
          split at read
          next => cases read
          next =>
            split at read
            next => cases read
            next =>
              split at read
              next => cases read
              next value left filled =>
                exact ih (hold.set (reads field (mem_of_find? found) _ value left (of_within filled))
                  index) read

theorem Read.hold_of_elementsFrom (record : Record α) (reads : Read P fields) {index : Nat}
    (read : elementsFrom record fields index bytes = .ok (final, rest)) : Hold P final := by
  induction fields generalizing index bytes final with
  | nil =>
    cases read
    exact hold_replicate P 0
  | cons field fields ih =>
    unfold elementsFrom at read
    split at read
    next => cases read
    next => cases read
    next =>
      split at read
      next => cases read
      next value left filled =>
        split at read
        next => cases read
        next later others =>
          cases read
          intro other member
          rcases List.mem_cons.mp member with same | inLater
          · cases same
            exact reads field List.mem_cons_self _ value left (of_within filled)
          · exact ih (fun field member => reads field (List.mem_cons_of_mem _ member)) others other
              inLater

theorem Read.hold_of_object {record : Record α} (reads : Read P record.fields)
    (read : record.object bytes = .ok (final, rest)) : Hold P final := by
  unfold object at read
  simp only at read
  split at read
  next => cases read
  next members =>
    split at read
    next => cases read
    next =>
      cases read
      exact reads.hold_of_membersFrom (hold_replicate P _) members

theorem Read.hold_of_list {record : Record α} (reads : Read P record.fields)
    (read : record.list bytes = .ok (final, rest)) : Hold P final := by
  unfold list at read
  split at read
  next => cases read
  next elements =>
    split at read
    next => cases read
    next =>
      cases read
      exact reads.hold_of_elementsFrom record elements

/-- Every value of a record that was read has what all values have that its fields can read. -/
theorem Read.hold_of_ofBytes {record : Record α} (reads : Read P record.fields)
    (parsed : record.ofBytes bytes = .ok final) : Hold P final := by
  unfold ofBytes at parsed
  split at parsed
  next => cases parsed
  next slots left whole =>
    split at parsed
    next => cases parsed
    next =>
      cases parsed
      unfold Record.read at whole
      split at whole
      next => cases whole
      next =>
        split at whole
        next => exact reads.hold_of_object whole
        next =>
          split at whole
          next => exact reads.hold_of_list whole
          next => exact absurd whole (refuseKind_ne_ok _ _ _)

end Record

end SessionServer.Json
