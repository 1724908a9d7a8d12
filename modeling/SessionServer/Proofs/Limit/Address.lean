import Mathlib.Data.List.Chain
import SessionServer.Limit.Limiter
import SessionServer.Proofs.Text.Blank
import SessionServer.Proofs.Text.Decimal
import SessionServer.Proofs.Text.Split

/-!
An address is read back from the text that is written for it. So different addresses have different texts,
none of them is the text for callers within the process, and no two clients are counted as one.
-/

namespace SessionServer

/-- Hexadecimal numerals consist of the digits of numbers below 16. -/
theorem Text.Hex.exists_digit {n : Nat} {c : Char} (member : c ∈ Nat.toDigits 16 n) :
    ∃ digit < 16, c = Nat.digitChar digit := by
  induction n using Nat.strongRecOn with
  | ind n ih =>
    rw [Nat.toDigits_eq_if (by decide)] at member
    by_cases small : n < 16
    · rw [if_pos small] at member
      exact ⟨n, small, List.mem_singleton.mp member⟩
    · rw [if_neg small] at member
      rcases List.mem_append.mp member with front | last
      · exact ih (n / 16) (by omega) front
      · exact ⟨n % 16, by omega, List.mem_singleton.mp last⟩

/-- A hexadecimal numeral is read back digit by digit. -/
theorem Text.Hex.mapM_toDigits (n : Nat) :
    ∃ digits, (Nat.toDigits 16 n).mapM value? = some digits ∧
      digits.length = (Nat.toDigits 16 n).length ∧
      digits.foldl (fun value digit => 16 * value + digit) 0 = n := by
  have digit : ∀ d < 16, value? (Nat.digitChar d) = some d := by decide
  induction n using Nat.strongRecOn with
  | ind n ih =>
    rw [Nat.toDigits_eq_if (by decide)]
    by_cases small : n < 16
    · rw [if_pos small]
      refine ⟨[n], ?_, rfl, by simp⟩
      simp [digit n small]
    · rw [if_neg small]
      obtain ⟨digits, read, length, value⟩ := ih (n / 16) (by omega)
      refine ⟨digits ++ [n % 16], ?_, by simp [length], ?_⟩
      · simp [List.mapM_append, read, digit (n % 16) (by omega)]
      · rw [List.foldl_append, value]
        simp only [List.foldl_cons, List.foldl_nil]
        omega

namespace Address
open Text (not_mem_intercalate splitAll splitAll_eq_iff splitAll_of_not_mem)

/-! ## Octets -/

theorem Numbers.ofList?_toList {count bound : Nat} (numbers : Numbers count bound) :
    ofList? count bound numbers.toList = some numbers := by
  rw [ofList?, dif_pos ⟨numbers.length_eq, numbers.lt_bound⟩]

theorem mapM_nat?_ofNat (octets : List Nat) :
    (octets.map Text.Decimal.ofNat).mapM Text.Decimal.nat? = some octets := by
  induction octets with
  | nil => rfl
  | cons octet rest ih => simp [Text.Decimal.nat?_ofNat, ih]

/-- A character that is no digit does not occur in a decimal numeral. -/
theorem not_mem_ofNat {c : Char} (other : c.isDigit = false) (n : Nat) : c ∉ Text.Decimal.ofNat n := by
  intro member
  rw [Text.Decimal.isDigit_of_mem_ofNat member] at other
  cases other

theorem not_mem_writeOctets {c : Char} (other : c.isDigit = false) (noPoint : c ≠ '.')
    (octets : List Nat) : c ∉ writeOctets octets := by
  refine not_mem_intercalate noPoint ?_
  intro piece member
  obtain ⟨octet, -, rfl⟩ := List.mem_map.mp member
  exact not_mem_ofNat other octet

theorem octets?_writeOctets (octets : Numbers 4 0x100) :
    octets? (writeOctets octets.toList) = some octets := by
  have nonempty : octets.toList.map Text.Decimal.ofNat ≠ [] := by
    intro empty
    have length := octets.length_eq
    rw [List.map_eq_nil_iff.mp empty] at length
    cases length
  have pieces : splitAll '.' (writeOctets octets.toList) = octets.toList.map Text.Decimal.ofNat := by
    refine splitAll_eq_iff.mpr ⟨nonempty, ?_, rfl⟩
    intro piece member
    obtain ⟨octet, -, rfl⟩ := List.mem_map.mp member
    exact not_mem_ofNat (by decide) octet
  rw [octets?, pieces, mapM_nat?_ofNat]
  exact Numbers.ofList?_toList octets

/-- A text without points is not the text of four octets. -/
theorem octets?_of_not_mem {chars : List Char} (absent : '.' ∉ chars) : octets? chars = none := by
  rw [octets?, splitAll_of_not_mem absent]
  cases read : Text.Decimal.nat? chars with
  | none => simp [read]
  | some number => simp [read, Numbers.ofList?]

/-- Pairs of octets are half as many. -/
theorem length_paired : (octets : List Nat) → (paired octets).length = octets.length / 2
  | [] => rfl
  | [_] => by simp [paired]
  | high :: low :: rest => by
    rw [paired, List.length_cons, length_paired rest, List.length_cons, List.length_cons]
    omega

/-! ## Groups -/

theorem writeGroups_singleton (group : Nat) : writeGroups [group] = Nat.toDigits 16 group :=
  List.intercalate_singleton

theorem writeGroups_cons_cons (first second : Nat) (rest : List Nat) :
    writeGroups (first :: second :: rest) =
      Nat.toDigits 16 first ++ ':' :: writeGroups (second :: rest) := by
  show List.intercalate [':'] (_ :: _ :: _) = _
  rw [List.intercalate_cons_cons, List.append_assoc, List.singleton_append]
  rfl

theorem group?_toDigits {group : Nat} (small : group < 0x10000) :
    group? (Nat.toDigits 16 group) = some group := by
  obtain ⟨digits, read, length, value⟩ := Text.Hex.mapM_toDigits group
  have least : 1 ≤ digits.length := length ▸ Nat.length_toDigits_pos
  have most : digits.length ≤ 4 :=
    length ▸ (Nat.length_toDigits_le_iff (by decide) (by decide)).mpr small
  simp [group?, read, least, most, value]

theorem mapM_group?_toDigits {groups : List Nat} (small : ∀ group ∈ groups, group < 0x10000) :
    (groups.map (Nat.toDigits 16)).mapM group? = some groups := by
  induction groups with
  | nil => rfl
  | cons group rest ih =>
    obtain ⟨here, later⟩ := List.forall_mem_cons.mp small
    simp [group?_toDigits here, ih later]

/-- Neither colons nor points occur in a group. -/
theorem not_mem_toDigits {c : Char} (other : ∀ digit < 16, c ≠ Nat.digitChar digit) (group : Nat) :
    c ∉ Nat.toDigits 16 group := by
  intro member
  obtain ⟨digit, small, same⟩ := Text.Hex.exists_digit member
  exact other digit small same

theorem colon_not_mem_toDigits (group : Nat) : ':' ∉ Nat.toDigits 16 group :=
  not_mem_toDigits (by decide) group

theorem splitAll_writeGroups {groups : List Nat} (nonempty : groups ≠ []) :
    splitAll ':' (writeGroups groups) = groups.map (Nat.toDigits 16) := by
  refine splitAll_eq_iff.mpr ⟨List.map_eq_nil_iff.not.mpr nonempty, ?_, rfl⟩
  intro piece member
  obtain ⟨group, -, rfl⟩ := List.mem_map.mp member
  exact colon_not_mem_toDigits group

/-- The text of groups begins with a digit. -/
theorem exists_head_writeGroups (group : Nat) (rest : List Nat) :
    ∃ c tail, writeGroups (group :: rest) = c :: tail ∧ c ≠ ':' := by
  obtain ⟨c, digits, first⟩ := List.exists_cons_of_ne_nil (Nat.toDigits_ne_nil (b := 16) (n := group))
  have other : c ≠ ':' := by
    rintro rfl
    exact colon_not_mem_toDigits group (first ▸ List.mem_cons_self)
  cases rest with
  | nil => exact ⟨c, digits, by rw [writeGroups_singleton, first], other⟩
  | cons next rest =>
    refine ⟨c, digits ++ ':' :: writeGroups (next :: rest), ?_, other⟩
    rw [writeGroups_cons_cons, first, List.cons_append]

theorem groups?_writeGroups {groups : List Nat} (small : ∀ group ∈ groups, group < 0x10000) :
    groups? (writeGroups groups) = some groups := by
  cases groups with
  | nil => rfl
  | cons group rest =>
    have pieces := splitAll_writeGroups (List.cons_ne_nil group rest)
    have filled : writeGroups (group :: rest) ≠ [] := by
      obtain ⟨c, tail, written, -⟩ := exists_head_writeGroups group rest
      exact written ▸ List.cons_ne_nil c tail
    obtain ⟨last, final⟩ : ∃ last, ((group :: rest).map (Nat.toDigits 16)).getLast? =
        some (Nat.toDigits 16 last) := by
      rw [List.getLast?_map, List.getLast?_eq_some_getLast (List.cons_ne_nil group rest)]
      exact ⟨_, rfl⟩
    have noOctets : octets? (Nat.toDigits 16 last) = none :=
      octets?_of_not_mem (not_mem_toDigits (by decide) last)
    rw [groups?, List.isEmpty_eq_false_iff.mpr filled, if_neg Bool.false_ne_true]
    simp only [pieces, final, Option.getD_some, noOctets]
    exact mapM_group?_toDigits small

/-! ## The gap for the zeros -/

/-- Whether no two colons stand in a row. -/
def Gapless (chars : List Char) : Prop := chars.IsChain fun c d => c = ':' → d ≠ ':'

theorem gapless_of_not_mem {chars : List Char} (absent : ':' ∉ chars) : Gapless chars := by
  induction chars with
  | nil => exact .nil
  | cons c rest ih =>
    rw [List.mem_cons, not_or] at absent
    cases rest with
    | nil => exact .singleton c
    | cons d rest => exact .cons_cons (fun colon => absurd colon.symm absent.1) (ih absent.2)

theorem splitGap_eq_none {chars : List Char} (gapless : Gapless chars) : splitGap chars = none := by
  induction chars with
  | nil => rfl
  | cons c rest ih =>
    unfold splitGap
    split
    next two =>
      obtain ⟨rfl, rfl⟩ := List.cons.inj two
      exact absurd rfl ((List.isChain_cons_cons.mp gapless).1 rfl)
    next c' rest' _ same =>
      obtain ⟨rfl, rfl⟩ := List.cons.inj same
      rw [ih gapless.tail, Option.map_none]
    next empty => cases empty

/-- The first two colons in a row are found where nothing in front of them has such. -/
theorem splitGap_append {before : List Char} (after : List Char) (gapless : Gapless (before ++ [':'])) :
    splitGap (before ++ ':' :: ':' :: after) = some (before, after) := by
  induction before with
  | nil => rfl
  | cons c rest ih =>
    rw [List.cons_append] at gapless ⊢
    unfold splitGap
    split
    next two =>
      obtain ⟨rfl, same⟩ := List.cons.inj two
      cases rest with
      | nil => exact absurd rfl ((List.isChain_cons_cons.mp gapless).1 rfl)
      | cons d rest =>
        obtain ⟨rfl, -⟩ := List.cons.inj same
        exact absurd rfl ((List.isChain_cons_cons.mp gapless).1 rfl)
    next c' rest' _ same =>
      obtain ⟨rfl, rfl⟩ := List.cons.inj same
      rw [ih gapless.tail, Option.map_some]
    next empty => cases empty

/-- Groups are never empty, so their text has no two colons in a row, and does not end with one. -/
theorem gapless_writeGroups (groups : List Nat) : Gapless (writeGroups groups ++ [':']) := by
  have closed (group : Nat) {rest : List Char} (chain : Gapless (':' :: rest)) :
      Gapless (Nat.toDigits 16 group ++ ':' :: rest) := by
    refine List.isChain_append.mpr ⟨gapless_of_not_mem (colon_not_mem_toDigits group), chain, ?_⟩
    intro last isLast _ _ colon
    exact absurd (colon ▸ List.mem_of_getLast? isLast) (colon_not_mem_toDigits group)
  induction groups with
  | nil => exact .singleton ':'
  | cons group rest ih =>
    cases rest with
    | nil =>
      rw [writeGroups_singleton]
      exact closed group (.singleton ':')
    | cons next rest =>
      rw [writeGroups_cons_cons, List.append_assoc, List.cons_append]
      obtain ⟨c, tail, written, other⟩ := exists_head_writeGroups next rest
      rw [written, List.cons_append] at ih ⊢
      exact closed group (.cons_cons (fun _ => other) ih)

/-! ## Whole addresses -/

/-- What stands at the longest run of zeros are zeros, with the other groups on either side. -/
theorem eq_of_zeros (groups : List Nat) :
    groups = groups.take (zeros groups).1 ++ List.replicate (zeros groups).2 0 ++
      groups.drop ((zeros groups).1 + (zeros groups).2) := by
  induction groups with
  | nil => rfl
  | cons group rest ih =>
    unfold zeros
    simp only
    -- The longest run starts here, or it is the longest run of the rest.
    split
    next =>
      have whole : (group :: rest).takeWhile (· = 0) ++ (group :: rest).dropWhile (· = 0) =
          group :: rest := List.takeWhile_append_dropWhile
      have front : (group :: rest).takeWhile (· = 0) =
          List.replicate ((group :: rest).takeWhile (· = 0)).length 0 := by
        refine List.eq_replicate_of_mem fun other member => ?_
        exact of_decide_eq_true (List.all_eq_true.mp List.all_takeWhile other member)
      have back : (group :: rest).drop ((group :: rest).takeWhile (· = 0)).length =
          (group :: rest).dropWhile (· = 0) := by
        have dropped : ((group :: rest).takeWhile (· = 0) ++ (group :: rest).dropWhile (· = 0)).drop
            ((group :: rest).takeWhile (· = 0)).length = (group :: rest).dropWhile (· = 0) :=
          List.drop_left
        rwa [whole] at dropped
      rw [List.take_zero, List.nil_append, Nat.zero_add, ← front, back, whole]
    next =>
      rw [List.take_succ_cons, Nat.add_right_comm, List.drop_succ_cons, List.cons_append, List.cons_append]
      exact congrArg (group :: ·) ih

theorem v6?_writeShortened (groups : Numbers 8 0x10000) :
    v6? (writeShortened groups.toList) = some (.v6 groups) := by
  unfold writeShortened
  have whole := eq_of_zeros groups.toList
  have small := groups.lt_bound
  rcases longest : zeros groups.toList with ⟨start, length⟩
  rw [longest] at whole
  simp only at whole ⊢
  split
  next several =>
    have front : groups? (writeGroups (groups.toList.take start)) = some (groups.toList.take start) :=
      groups?_writeGroups fun group member => small group (List.mem_of_mem_take member)
    have back : groups? (writeGroups (groups.toList.drop (start + length))) =
        some (groups.toList.drop (start + length)) :=
      groups?_writeGroups fun group member => small group (List.mem_of_mem_drop member)
    -- The gap stands for as many zeros as the groups on either side leave of the eight.
    have count := congrArg List.length whole
    have length_eq := groups.length_eq
    simp only [List.length_append, List.length_take, List.length_replicate, List.length_drop,
      length_eq] at count
    have missing : 8 - (groups.toList.take start).length -
        (groups.toList.drop (start + length)).length = length := by
      rw [List.length_take, List.length_drop, length_eq]
      omega
    have room : (groups.toList.take start).length +
        (groups.toList.drop (start + length)).length < 8 := by
      rw [List.length_take, List.length_drop, length_eq]
      omega
    rw [v6?, splitGap_append _ (gapless_writeGroups _)]
    simp only [front, back, Option.bind_eq_bind, Option.bind_some, if_pos room, missing]
    rw [← whole, Numbers.ofList?_toList, Option.map_some]
  next =>
    have gapless : Gapless (writeGroups groups.toList) :=
      (List.isChain_append.mp (gapless_writeGroups groups.toList)).1
    rw [v6?, splitGap_eq_none gapless]
    simp only [groups?_writeGroups small, Option.bind_eq_bind, Option.bind_some,
      Numbers.ofList?_toList, Option.map_some]

/-- The last two groups may be written as four octets. -/
theorem groups?_writeOctets {high low : Nat} (highSmall : high < 0x10000) (lowSmall : low < 0x10000) :
    groups? ("ffff:".toList ++ writeOctets [high / 0x100, high % 0x100, low / 0x100, low % 0x100]) =
      some [0xFFFF, high, low] := by
  let octets : Numbers 4 0x100 :=
    { toList := [high / 0x100, high % 0x100, low / 0x100, low % 0x100]
      length_eq := rfl
      lt_bound := by
        simp only [List.forall_mem_cons]
        exact ⟨by omega, by omega, by omega, by omega, nofun⟩ }
  have read : octets? (writeOctets octets.toList) = some octets := octets?_writeOctets octets
  have joined : paired octets.toList = [high, low] := by
    show [0x100 * (high / 0x100) + high % 0x100, 0x100 * (low / 0x100) + low % 0x100] = _
    rw [Nat.div_add_mod, Nat.div_add_mod]
  have colonless : ':' ∉ writeOctets octets.toList :=
    not_mem_writeOctets (by decide) (by decide) octets.toList
  have absent : ':' ∉ "ffff".toList := by decide
  have pieces : splitAll ':' ("ffff:".toList ++ writeOctets octets.toList) =
      ["ffff".toList, writeOctets octets.toList] := by
    rw [← splitAll_of_not_mem colonless]
    exact Text.splitAll_append_cons _ absent
  have first : ["ffff".toList].mapM group? = some [0xFFFF] := by decide
  show groups? ("ffff:".toList ++ writeOctets octets.toList) = _
  rw [groups?, if_neg (by simp), pieces]
  simp only [List.getLast?_cons_cons, List.getLast?_singleton, Option.getD_some, read,
    List.dropLast_cons_cons, List.dropLast_singleton, first, joined]
  rfl

theorem v6?_write (groups : Numbers 8 0x10000) : v6? (write (.v6 groups)) = some (.v6 groups) := by
  unfold write
  simp only
  split
  next high low same =>
    have small := groups.lt_bound
    rw [same] at small
    have back := groups?_writeOctets (small high (by simp)) (small low (by simp))
    have front : groups? [] = some [] := rfl
    have whole : Numbers.ofList? 8 0x10000 [0, 0, 0, 0, 0, 0xFFFF, high, low] = some groups := by
      rw [← same, Numbers.ofList?_toList]
    show v6? (':' :: ':' :: ("ffff:".toList ++ writeOctets _)) = _
    rw [v6?, splitGap]
    simp only [front, back, Option.bind_eq_bind, Option.bind_some]
    show (Numbers.ofList? 8 0x10000 [0, 0, 0, 0, 0, 0xFFFF, high, low]).map v6 = _
    rw [whole, Option.map_some]
  next => exact v6?_writeShortened groups

/-- The text of four octets is not the text of eight groups. -/
theorem v6?_writeOctets (octets : Numbers 4 0x100) : v6? (writeOctets octets.toList) = none := by
  have colonless : ':' ∉ writeOctets octets.toList :=
    not_mem_writeOctets (by decide) (by decide) octets.toList
  have read := octets?_writeOctets octets
  have filled : (writeOctets octets.toList).isEmpty = false := by
    refine List.isEmpty_eq_false_iff.mpr fun empty => ?_
    rw [empty] at read
    cases read
  have few : Numbers.ofList? 8 0x10000 (paired octets.toList) = none := by
    refine dif_neg fun fits => ?_
    rw [length_paired, octets.length_eq] at fits
    exact absurd fits.1 (by decide)
  rw [v6?, splitGap_eq_none (gapless_of_not_mem colonless)]
  simp only [groups?, filled, Bool.false_eq_true, if_false, splitAll_of_not_mem colonless,
    List.getLast?_singleton, Option.getD_some, read, List.dropLast_singleton, List.mapM_nil]
  show (Numbers.ofList? 8 0x10000 (paired octets.toList)).map v6 = none
  rw [few, Option.map_none]

theorem write_injective {first second : Address} (same : first.write = second.write) :
    first = second := by
  cases first with
  | v4 octets =>
    cases second with
    | v4 others =>
      have read := octets?_writeOctets octets
      rw [show writeOctets octets.toList = writeOctets others.toList from same,
        octets?_writeOctets] at read
      rw [Option.some.inj read]
    | v6 groups =>
      have read := v6?_writeOctets octets
      rw [show writeOctets octets.toList = write (.v6 groups) from same, v6?_write] at read
      cases read
  | v6 groups =>
    cases second with
    | v4 octets =>
      have read := v6?_writeOctets octets
      rw [show writeOctets octets.toList = write (.v6 groups) from same.symm, v6?_write] at read
      cases read
    | v6 others =>
      have read := v6?_write groups
      rw [same, v6?_write] at read
      exact (Option.some.inj read).symm

/-! ## Peers -/

theorem not_mem_writeGroups {c : Char} (other : ∀ digit < 16, c ≠ Nat.digitChar digit)
    (noColon : c ≠ ':') (groups : List Nat) : c ∉ writeGroups groups := by
  refine not_mem_intercalate noColon ?_
  intro piece member
  obtain ⟨group, -, rfl⟩ := List.mem_map.mp member
  exact not_mem_toDigits other group

/-- The text of eight groups consists of hexadecimal digits, colons and points. -/
theorem not_mem_write {c : Char} (other : ∀ digit < 16, c ≠ Nat.digitChar digit)
    (noDigit : c.isDigit = false) (noColon : c ≠ ':') (noPoint : c ≠ '.') (groups : Numbers 8 0x10000) :
    c ∉ write (.v6 groups) := by
  have digits : c ∉ "::ffff:".toList := by
    have letter : c ≠ 'f' := other 15 (by decide)
    simp [noColon, letter]
  unfold write
  simp only
  split
  next =>
    rw [List.mem_append, not_or]
    exact ⟨digits, not_mem_writeOctets noDigit noPoint _⟩
  next =>
    unfold writeShortened
    simp only
    split
    next =>
      rw [List.mem_append, List.mem_cons, List.mem_cons, not_or, not_or, not_or]
      exact ⟨not_mem_writeGroups other noColon _, noColon, noColon, not_mem_writeGroups other noColon _⟩
    next => exact not_mem_writeGroups other noColon _

/-- The text of a peer: its address, and the port behind it. -/
def writePeer (address : Address) (port : Nat) : String :=
  match address with
  | .v4 _ => String.ofList (address.write ++ ':' :: Text.Decimal.ofNat port)
  | .v6 _ => String.ofList ('[' :: (address.write ++ ']' :: ':' :: Text.Decimal.ofNat port))

/-- A peer is known by its address, whatever its port. -/
theorem ofPeer?_writePeer (address : Address) (port : Nat) :
    ofPeer? (address.writePeer port) = some address := by
  cases address with
  | v4 octets =>
    have colonless : ':' ∉ writeOctets octets.toList :=
      not_mem_writeOctets (by decide) (by decide) octets.toList
    have bracketless : '[' ∉ writeOctets octets.toList :=
      not_mem_writeOctets (by decide) (by decide) octets.toList
    show ofPeer? (String.ofList (writeOctets octets.toList ++ _)) = _
    rw [ofPeer?, String.toList_ofList]
    split
    next rest bracket =>
      rcases List.append_eq_cons_iff.mp bracket with ⟨-, port⟩ | ⟨front, written, -⟩
      · cases port
      · exact absurd (written ▸ List.mem_cons_self) bracketless
    next =>
      rw [Text.splitOnce_append _ colonless, Option.bind_eq_bind, Option.bind_some]
      show (octets? (writeOctets octets.toList)).map v4 = _
      rw [octets?_writeOctets, Option.map_some]
  | v6 groups =>
    have closed : ']' ∉ write (.v6 groups) :=
      not_mem_write (by decide) (by decide) (by decide) (by decide) groups
    have unscoped : '%' ∉ write (.v6 groups) :=
      not_mem_write (by decide) (by decide) (by decide) (by decide) groups
    simp only [ofPeer?, writePeer, String.toList_ofList, Text.splitOnce_append _ closed,
      Option.bind_eq_bind, Option.bind_some, Text.splitOnce_eq_none unscoped, Option.getD_none]
    exact v6?_write groups

end Address

namespace Limit

/-- No two clients are counted as one: an address is known by its text, and no text is that of callers
within the process. -/
theorem Client.key_injective {first second : Client} (same : first.key = second.key) :
    first = second := by
  have apart (address : Address) : address.write ≠ "local".toList := by
    intro same
    cases address with
    | v4 octets =>
      have read := Address.octets?_writeOctets octets
      rw [show Address.writeOctets octets.toList = "local".toList from same] at read
      rw [show Address.octets? "local".toList = none by decide] at read
      cases read
    | v6 groups =>
      have read := Address.v6?_write groups
      rw [same, show Address.v6? "local".toList = none by decide] at read
      cases read
  cases first with
  | internal =>
    cases second with
    | internal => rfl
    | peer address => exact absurd (String.ofList_inj.mp same.symm) (apart address)
  | peer address =>
    cases second with
    | internal => exact absurd (String.ofList_inj.mp same) (apart address)
    | peer other => rw [Address.write_injective (String.ofList_inj.mp same)]

end Limit

end SessionServer
