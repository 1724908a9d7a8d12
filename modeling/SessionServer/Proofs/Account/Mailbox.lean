import Mathlib.Data.List.TakeWhile
import Mathlib.Data.String.Basic
import SessionServer.Account.Mailbox
import SessionServer.Text.Blank

/-!
Which addresses name the same mailbox: those that differ in case only, and those that differ behind a zero
character only. Folding the case of ASCII letters keeps the number of octets and the place of the first
zero character, so it changes nothing that is compared.
-/

namespace SessionServer.Mailbox

/-- Whether two addresses differ in the case of ASCII letters at most. -/
def SameButForCase (first second : String) : Prop :=
  Text.lowerAscii first.toList = Text.lowerAscii second.toList

/-- Whether two addresses are equally long and have a zero character each, before which they differ in the
case of ASCII letters at most. -/
def SameUpToZero (first second : String) : Prop :=
  first.utf8ByteSize = second.utf8ByteSize ∧
    ∃ start other rest more, first.toList = start ++ '\x00' :: rest ∧
      second.toList = other ++ '\x00' :: more ∧ Text.lowerAscii start = Text.lowerAscii other

/-- Lower case changes capital letters only, and those to small letters. -/
theorem toLower_cases (c : Char) :
    c.toLower = c ∨ c.toNat ≤ 0x5A ∧ 0x61 ≤ c.toLower.toNat ∧ c.toLower.toNat ≤ 0x7A := by
  unfold Char.toLower
  split
  next capital =>
    obtain ⟨least, most⟩ := capital
    have least : 0x41 ≤ c.toNat := least
    have most : c.toNat ≤ 0x5A := most
    have moved : (c.val + ('a'.val - 'A'.val)).toNat = c.toNat + 0x20 := by
      rw [UInt32.toNat_add]
      show (c.toNat + 0x20) % 2 ^ 32 = _
      omega
    refine .inr ⟨most, ?_, ?_⟩
    · show 0x61 ≤ (c.val + ('a'.val - 'A'.val)).toNat
      omega
    · show (c.val + ('a'.val - 'A'.val)).toNat ≤ 0x7A
      omega
  next => exact .inl rfl

theorem utf8Size_toLower (c : Char) : c.toLower.utf8Size = c.utf8Size := by
  rcases toLower_cases c with same | ⟨capital, -, small⟩
  · rw [same]
  · have ascii {d : Char} (bound : d.toNat ≤ 0x7F) : d.utf8Size = 1 :=
      Char.utf8Size_eq_one_iff.mpr (UInt32.le_iff_toNat_le.mpr bound)
    rw [ascii (by omega), ascii (by omega)]

theorem toLower_eq_zero_iff (c : Char) : c.toLower = '\x00' ↔ c = '\x00' := by
  rcases toLower_cases c with same | ⟨capital, least, -⟩
  · rw [same]
  · constructor
    · intro zero
      rw [zero] at least
      exact absurd least (by decide)
    · rintro rfl
      exact absurd least (by decide)

theorem utf8Len_lowerAscii (chars : List Char) :
    String.utf8Len (Text.lowerAscii chars) = String.utf8Len chars := by
  induction chars with
  | nil => rfl
  | cons c rest ih =>
    show String.utf8Len (c.toLower :: Text.lowerAscii rest) = _
    rw [String.utf8Len_cons, String.utf8Len_cons, ih, utf8Size_toLower]

theorem folded_eq_takeWhile (email : String) :
    folded email = (Text.lowerAscii email.toList).takeWhile (· ≠ '\x00') := by
  rw [folded, Text.lowerAscii, List.takeWhile_map]
  congr 2
  funext c
  exact decide_eq_decide.mpr (not_congr (toLower_eq_zero_iff c)).symm

theorem same_eq_true_iff {first second : String} :
    same first second = true ↔
      first.utf8ByteSize = second.utf8ByteSize ∧ folded first = folded second := by
  rw [same, Bool.and_eq_true, decide_eq_true_eq, decide_eq_true_eq]

theorem utf8ByteSize_eq_utf8Len (text : String) : text.utf8ByteSize = String.utf8Len text.toList := by
  rw [← String.utf8ByteSize_ofList, String.ofList_toList]

/-- Addresses that differ in the case of ASCII letters at most name the same mailbox. -/
theorem same_of_lowerAscii {first second : String}
    (alike : Text.lowerAscii first.toList = Text.lowerAscii second.toList) :
    same first second = true := by
  have size : first.utf8ByteSize = second.utf8ByteSize := by
    rw [utf8ByteSize_eq_utf8Len, utf8ByteSize_eq_utf8Len, ← utf8Len_lowerAscii, alike, utf8Len_lowerAscii]
  rw [same_eq_true_iff, folded_eq_takeWhile, folded_eq_takeWhile, alike]
  exact ⟨size, rfl⟩

theorem takeWhile_lowerAscii {chars : List Char} (absent : '\x00' ∉ chars) :
    (Text.lowerAscii chars).takeWhile (· ≠ '\x00') = Text.lowerAscii chars := by
  rw [List.takeWhile_eq_self_iff]
  intro c member
  obtain ⟨d, there, rfl⟩ := List.mem_map.mp member
  refine decide_eq_true fun zero => absent ?_
  rwa [← (toLower_eq_zero_iff d).mp zero]

theorem folded_of_whole {email : String} (absent : '\x00' ∉ email.toList) :
    folded email = Text.lowerAscii email.toList := by
  rw [folded_eq_takeWhile, takeWhile_lowerAscii absent]

/-- What stands behind a zero character is not compared. -/
theorem folded_append_zero {email : String} {start rest : List Char}
    (cut : email.toList = start ++ '\x00' :: rest) :
    folded email = (Text.lowerAscii start).takeWhile (· ≠ '\x00') := by
  have lower : Text.lowerAscii (start ++ '\x00' :: rest) =
      Text.lowerAscii start ++ '\x00' :: Text.lowerAscii rest := List.map_append
  have stops : ('\x00' :: Text.lowerAscii rest).takeWhile (· ≠ '\x00') = [] := rfl
  rw [folded_eq_takeWhile, cut, lower, List.takeWhile_append, stops, List.append_nil]
  split
  next all => exact (List.takeWhile_prefix _).eq_of_length all |>.symm
  next => rfl

/-- Of addresses without a zero character, only those name the same mailbox. -/
theorem lowerAscii_of_same {first second : String} (whole : '\x00' ∉ first.toList)
    (otherWhole : '\x00' ∉ second.toList) (named : same first second = true) :
    Text.lowerAscii first.toList = Text.lowerAscii second.toList := by
  rw [← folded_of_whole whole, (same_eq_true_iff.mp named).2, folded_of_whole otherWhole]

/-- An address with a zero character names the same mailbox only as an address that has one, too. -/
theorem zero_mem_of_same {first second : String} (named : same first second = true)
    (member : '\x00' ∈ first.toList) : '\x00' ∈ second.toList := by
  obtain ⟨start, rest, cut, absent⟩ := List.eq_append_cons_of_mem member
  obtain ⟨size, alike⟩ := same_eq_true_iff.mp named
  by_contra whole
  have start_eq : folded first = Text.lowerAscii start := by
    rw [folded_append_zero cut, takeWhile_lowerAscii absent]
  -- The other address is no longer than what stands before the zero character.
  have short : String.utf8Len second.toList = String.utf8Len start := by
    rw [← utf8Len_lowerAscii, ← folded_of_whole whole, ← alike, start_eq, utf8Len_lowerAscii]
  rw [utf8ByteSize_eq_utf8Len, utf8ByteSize_eq_utf8Len, short, cut, String.utf8Len_append,
    String.utf8Len_cons] at size
  have one := Char.utf8Size_pos '\x00'
  omega

/-- Two addresses name the same mailbox exactly if they differ in case only, or behind a zero character
only. -/
theorem same_iff {first second : String} :
    same first second = true ↔ SameButForCase first second ∨ SameUpToZero first second := by
  constructor
  · intro named
    by_cases member : '\x00' ∈ first.toList
    · obtain ⟨start, rest, cut, absent⟩ := List.eq_append_cons_of_mem member
      obtain ⟨other, more, otherCut, otherAbsent⟩ :=
        List.eq_append_cons_of_mem (zero_mem_of_same named member)
      obtain ⟨size, alike⟩ := same_eq_true_iff.mp named
      refine .inr ⟨size, start, other, rest, more, cut, otherCut, ?_⟩
      rw [← takeWhile_lowerAscii absent, ← folded_append_zero cut, alike, folded_append_zero otherCut,
        takeWhile_lowerAscii otherAbsent]
    · have otherMember : '\x00' ∉ second.toList := fun there =>
        member (zero_mem_of_same ((same_comm second first).trans named) there)
      exact .inl (lowerAscii_of_same member otherMember named)
  · rintro (alike | ⟨size, start, other, rest, more, cut, otherCut, alike⟩)
    · exact same_of_lowerAscii alike
    · rw [same_eq_true_iff, folded_append_zero cut, folded_append_zero otherCut, alike]
      exact ⟨size, rfl⟩

end SessionServer.Mailbox
